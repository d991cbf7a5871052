/-
Reads in two transactions never see a stale pointer.

A sensor on two wires keeps its register pointer from one message to the next.  A read in
two transactions trusts that nothing moves it in between, and a fault may end the read
after the first of them.  Still the pointer of an earlier operation is never used, since
each chunk sends its own header and reads nothing unless it was taken.

* `TwoWireLink.conveys_calls` — the transactions of a run of jobs, from its chunk calls;
* `TwoWireLink.readChunk_unheard` — a chunk whose header is not taken;
* `TwoWireRig.serves_registerBus` — simulated sensors serve their registers under any faults;
* `split_reads_fresh` — every run of jobs with reads in two transactions, and what any job
  does in either mode.
-/
import SensorLink.Proofs.Agreement
import SensorLink.Proofs.Bench.Serving
import SensorLink.Proofs.Register.ChunkProtocol
import SensorLink.Proofs.Wire.Answering
import SensorLink.Proofs.Wire.Transactions

namespace SensorLink

variable {σ ε μ ι ρ : Type}

namespace TwoWireLink

/-- The link with a record of transactions. -/
def watch (record : List (Transaction ε)) (link : TwoWireLink σ) :
    TwoWireLink (σ × List (Transaction ε)) :=
  ⟨link.settings, link.staging, (link.bus, record)⟩

/-- A run of jobs with a record of its transactions.  The record changes nothing, and it is
made up of the transactions of each chunk call. -/
theorem conveys_calls (bridge : Bridge ι ρ) {controller : TwoWireBus σ ε}
    (h : (registerBus controller).Answers) (boundary : Boundary μ) (jobs : List (Job μ ι))
    (endpoint : Endpoint ρ) (link : TwoWireLink σ) :
    let calls := Job.calls bridge boundary (registerBus controller) jobs endpoint link
    let run := Job.runAll bridge (registerBus controller) boundary jobs (endpoint, link)
    let watched := Job.runAll bridge (registerBus controller.watched) boundary jobs
      (endpoint, link.watch [])
    run.2.2.settings = link.settings ∧
      watched.1 = run.1 ∧ watched.2.1 = run.2.1 ∧ watched.2.2.bus.1 = run.2.2.bus ∧
      ∃ groups, List.Forall₂ link.settings.Conveys calls groups ∧
        watched.2.2.bus.2 = groups.flatten := by
  intro calls run watched
  have hsim := sim_registerBus controller.couples_watched
  have hmatches : Matches Logged link (link.watch ([] : List (Transaction ε))) := ⟨rfl, rfl⟩
  obtain ⟨replies, endpoint', v, v', hrun, hwatched, hv⟩ :=
    Job.sim_runAll bridge hsim boundary jobs endpoint hmatches
  have hsame : Job.calls bridge boundary (registerBus controller.watched) jobs endpoint
      (link.watch []) = calls := by
    rw [Job.calls_of_sim hsim bridge boundary jobs endpoint hmatches, BusCall.calls_mapError_id]
  have hreplays := Job.replays bridge boundary (registerBus controller.watched) jobs endpoint
    (link.watch [])
  rw [hsame] at hreplays
  obtain ⟨hsettings, groups, hgroups, hrecord⟩ := notes_replays controller.notes_watched hreplays
    fun call hmem => (Job.reaches_of_mem_calls bridge h (show 0 < twoWireChunkSize by decide)
      (Nat.le_refl registerSpace) boundary jobs endpoint hmem).le_chunkSize
  rw [hwatched] at hsettings hrecord
  rw [List.flatMap_singleton'] at hrecord
  simp only [run, watched, hrun, hwatched, Job.replies_mapError_id]
  exact ⟨hv.settings.symm.trans hsettings, trivial, trivial, hv.bus, groups, hgroups, hrecord⟩

/-- A chunk whose header is not taken: nothing is read, and the buffer is as it was. -/
theorem readChunk_unheard {controller : TwoWireBus σ ε} {link : TwoWireLink σ}
    (hsplit : link.settings.combined = false) (register : UInt16) {buffer : Bytes}
    (hsize : buffer.length ≤ twoWireChunkSize) (record : List (Transaction ε))
    {outcome : Outcome ε Unit} {s : σ} (hne : outcome ≠ .ok ())
    (hheader : controller.write link.settings.address (header register) link.bus = ⟨outcome, s⟩) :
    readChunk controller.watched register buffer (link.watch record)
      = ⟨outcome, (buffer, ⟨link.settings, link.staging,
          (s, record ++ [⟨.write link.settings.address (header register), outcome⟩])⟩)⟩ := by
  have hmode : ¬link.settings.combined = true := hsplit ▸ Bool.false_ne_true
  simp only [readChunk, watch, if_neg (Nat.not_lt.mpr hsize), if_neg hmode, TwoWireBus.watched,
    hheader]
  cases outcome with
  | ok => exact absurd rfl hne
  | error => rfl
  | trap => rfl

end TwoWireLink

namespace Bench.TwoWireRig

/-- The registers of the sensor. -/
def contents (rig : TwoWireRig) : Contents :=
  rig.bus.inner.registers.contents

/-- A simulated sensor serves its registers, whatever is planned to fail. -/
theorem serves_registerBus : registerBus.Serves contents fun _ => True :=
  TwoWireLink.serves_registerBus (Faulty.hears_twoWire TwoWireTarget.hears_controller)

end Bench.TwoWireRig

open Bench

/-- Reads in two transactions are fresh.  Whatever is done with a sensor, and whatever fails
meanwhile, data is only read right after the header of the same chunk was taken.  Every
chunk that is read brings the registers that it asks for, as the calls before it have left
them, and so does every read of any length, up to the chunk that fails.  A chunk whose
header fails reads nothing and leaves its buffer alone.  And a job that succeeds here and
over a link to registers that hold the same, in whichever mode that one reads, has the same
answer on both and leaves the same registers. -/
theorem split_reads_fresh (bridge : Bridge ι ρ) (boundary : Boundary μ)
    (jobs : List (Job μ ι)) (endpoint : Endpoint ρ) (link : TwoWireRig)
    (hsplit : link.settings.combined = false) :
    let controller := Faulty.twoWire TwoWireTarget.controller
    let bus := TwoWireRig.registerBus
    let calls := Job.calls bridge boundary bus jobs endpoint link
    let run := Job.runAll bridge bus boundary jobs (endpoint, link)
    let final := run.2.2
    let watched := Job.runAll bridge (TwoWireLink.registerBus controller.watched) boundary jobs
      (endpoint, link.watch [])
    (final.settings = link.settings ∧
      watched.1 = run.1 ∧ watched.2.1 = run.2.1 ∧ watched.2.2.bus.1 = final.bus ∧
      ∃ groups, List.Forall₂ link.settings.Conveys calls groups ∧
        watched.2.2.bus.2 = groups.flatten) ∧
    RegisterBus.Recalls link.contents calls (TwoWireRig.contents final) ∧
    (∀ (register : UInt16) (buffer : Bytes), register.toNat + buffer.length ≤ registerSpace →
      bus.ReadsInChunks TwoWireRig.contents register buffer final) ∧
    (∀ (register : UInt16) (buffer : Bytes) (record : List (Transaction TwoWireError)),
      buffer.length ≤ twoWireChunkSize →
      let sent := controller.write final.settings.address (header register) final.bus
      let read := TwoWireLink.readChunk controller.watched register buffer (final.watch record)
      sent.outcome ≠ .ok () →
        read.outcome = sent.outcome ∧ read.world.1 = buffer ∧
          read.world.2.bus = (sent.world, record
            ++ [⟨.write final.settings.address (header register), sent.outcome⟩])) ∧
    ∀ (other : TwoWireRig) (job : Job μ ι) (ready : ρ) (staging staging' : Staging),
      other.contents = TwoWireRig.contents final →
      let split := job.run bridge bus boundary (⟨staging, ready⟩, final)
      let either := job.run bridge bus boundary (⟨staging', ready⟩, other)
      Job.Succeeded split.1 → Job.Succeeded either.1 →
        either.1 = split.1 ∧ either.2.1.readiness = split.2.1.readiness ∧
          TwoWireRig.contents either.2.2 = TwoWireRig.contents split.2.2 := by
  intro controller bus calls run final watched
  have hchunk : 0 < twoWireChunkSize := by decide
  have hspace : registerSpace ≤ registerSpace := Nat.le_refl _
  have hserves := TwoWireRig.serves_registerBus
  have hanswers := TwoWireRig.answers_registerBus
  have hreplays := Job.replays bridge boundary bus jobs endpoint link
  have hreach : ∀ call ∈ calls, bus.Reaches call.register call.length link :=
    fun call hmem =>
      Job.reaches_of_mem_calls bridge hanswers hchunk hspace boundary jobs endpoint hmem
  have hconveys := TwoWireLink.conveys_calls bridge hanswers boundary jobs endpoint link
  have hsettings : final.settings = link.settings := hconveys.1
  refine ⟨hconveys, (hserves.recalls hreplays hreach).2, ?_, ?_, ?_⟩
  · intro register buffer hlimit
    exact hserves.readsInChunks final hchunk hspace register buffer hlimit
  · intro register buffer record hsize sent read hne
    have hread : read = _ :=
      TwoWireLink.readChunk_unheard (hsettings ▸ hsplit) register hsize record hne rfl
    rw [hread]
    exact ⟨rfl, rfl, rfl⟩
  · intro other job ready staging staging' hsame split either hok hok'
    have hrelated : SameRegisters bus bus TwoWireRig.contents TwoWireRig.contents final other :=
      ⟨hsame.symm, hspace, hspace⟩
    have hreadiness : (⟨staging', ready⟩ : Endpoint ρ).readiness
        = (⟨staging, ready⟩ : Endpoint ρ).readiness := rfl
    obtain ⟨hanswer, hready, hafter⟩ :=
      job.agree bridge (hserves.agrees hserves) boundary hreadiness hrelated hok hok'
    exact ⟨hanswer, hready, hafter.contents_eq.symm⟩

/-- A fault between the header and the data of a read at `0x20`, and then a read at `0x10` in
either mode.  At first the sensor points to `0x30`. -/
theorem split_reads_fresh_after_fault :
    let controller := Faulty.twoWire TwoWireTarget.controller
    let bus := TwoWireRig.registerBus
    let target : TwoWireTarget := { registers := .zero, pointer := 0x30 }
    let link : TwoWireRig := .bind { combined := false } ⟨.ofList [⟨2, .bus, 2⟩], target⟩
    let endpoint : Endpoint (Readiness Nat) := ⟨Scratch.zero _, .idle⟩
    let jobs : List (Job Window Nat) :=
      [.host (.sensor (.write 0x10 [7, 8])), .host (.sensor (.read 0x20 [0, 0, 0]))]
    let final := (Job.runAll Readiness.bridge bus Window.boundary jobs (endpoint, link)).2.2
    let other : TwoWireRig := .bind { combined := true } final.bus
    let watched := Job.runAll Readiness.bridge (TwoWireLink.registerBus controller.watched)
      Window.boundary jobs (endpoint, link.watch [])
    let job : Job Window Nat := .host (.sensor (.read 0x10 [0, 0]))
    watched.2.2.bus.2 = [⟨.write 0x29 [0, 0x10, 7, 8], .ok ()⟩,
        ⟨.write 0x29 [0, 0x20], .ok ()⟩, ⟨.read 0x29 3, .error .bus⟩] ∧
      final.bus.inner.pointer = 0x20 ∧
      (bus.read 0x10 [0, 0] final).world.1 = (TwoWireRig.contents final).read 0x10 2 ∧
      (job.run Readiness.bridge bus Window.boundary (endpoint, other)).1
        = (job.run Readiness.bridge bus Window.boundary (endpoint, final)).1 := by
  intro controller bus target link endpoint jobs final other watched job
  obtain ⟨_, _, hreads, _, hagree⟩ := split_reads_fresh Readiness.bridge Window.boundary jobs
    endpoint link rfl
  have hread := (hreads 0x10 [0, 0] (by decide)).of_ok (by decide +kernel)
  obtain ⟨hanswer, _⟩ := hagree other job .idle (Scratch.zero _) (Scratch.zero _) rfl
    (by decide +kernel) (by decide +kernel)
  exact ⟨by decide +kernel, by decide +kernel, hread, hanswer⟩

end SensorLink

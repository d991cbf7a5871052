/-
What a failing bus leaves behind.

A request reports a failure of the bus exactly if one of its chunk calls failed.
The error tells how far the request came, and registers and caller memory are as
far as it tells.

* `Ending.bus_error_iff` — which requests report a failure of the bus;
* `Ending.of_bus_error` — what the error says about calls, registers and memory;
* `bus_failure_accounting` — both, for every bus that serves registers, every
  boundary that honors caller memory, and every request.
-/
import SensorLink.Proofs.Bench.Serving
import SensorLink.Proofs.Control.Progress

namespace SensorLink

variable {β μ ε : Type}

namespace Setting.Ending

variable {s : Setting β μ ε} {request : Request} {b₀ b : β} {u₀ u : μ}
  {outcome : Outcome (RequestError ε) Unit} {calls : List (BusCall ε)}

theorem bus_error_iff (h : s.Ending request b₀ u₀ outcome calls b u) :
    (∃ direction offset e, outcome = .error (.access (.bus direction offset e))) ↔
      ∃ call ∈ calls, call.outcome ≠ .ok () := by
  constructor
  · rintro ⟨direction, offset, e, rfl⟩
    cases h with
    -- Of the three endings of the blocks, only a failed call reports the bus.
    | moved _ _ hprogress =>
      cases hprogress with
      | @failed calls call _ _ _ _ _ _ _ hlast =>
        refine ⟨call, List.mem_append_right _ List.mem_cons_self, ?_⟩
        rw [hlast]
        intro h
        cases h
  · rintro ⟨call, hmem, hcall⟩
    cases h with
    | outOfRange => exact absurd hmem List.not_mem_nil
    | inaccessible => exact absurd hmem List.not_mem_nil
    | moved _ _ hprogress =>
      cases hprogress with
      | finished hcalls => exact absurd (hcalls.outcome_of_mem hmem) hcall
      | failed => exact ⟨_, _, _, rfl⟩
      | refused hcalls => exact absurd (hcalls.outcome_of_mem hmem) hcall

theorem of_bus_error {direction : Direction} {offset : Nat} {e : ε}
    (h : s.Ending request b₀ u₀ (.error (.access (.bus direction offset e))) calls b u) :
    direction = request.direction ∧ offset < request.length.toNat ∧
      s.Reached request b₀ u₀ offset (stagingSize * (offset / stagingSize)) b u ∧
      ∃ earlier last, calls = earlier ++ [last] ∧
        Advances request.direction request.register.toNat earlier
          (request.register.toNat + offset) ∧
        last.direction = request.direction ∧
        last.register.toNat = request.register.toNat + offset ∧ last.outcome = .error e := by
  cases h with
  | moved _ _ hprogress =>
    cases hprogress with
    | failed hcalls hdirection hregister hlast _ hlt _ hreached =>
      exact ⟨rfl, hlt, hreached, _, _, rfl, hcalls, hdirection, hregister, hlast⟩

end Setting.Ending

/-- A request fails with an error of the bus iff one of its calls failed.  That call
was its last one, and the offset in the error is the number of bytes that the calls
before it moved.  On a write, these bytes have reached the registers; on a read,
the whole blocks among them have reached caller memory.  Nothing else has changed. -/
theorem Endpoint.bus_failure_accounting {bus : RegisterBus β ε} {boundary : Boundary μ}
    {contents : β → Contents} {Failed : β → Prop} {memory : μ → Contents}
    {Grants : μ → UInt64 → Nat → Prop} (hbus : bus.Serves contents Failed)
    (hboundary : boundary.Honors memory Grants) (request : Request) (staging : Staging) (b : β)
    (u : μ) (hchunk : 0 < bus.chunkSize b) (hspace : bus.addressLimit b ≤ registerSpace) :
    let run := execute (bus.beside μ) (boundary.after β) request staging (b, u)
    let calls : List (BusCall ε) :=
      Event.busCalls (Endpoint.calls (bus.beside μ) (boundary.after β) request staging (b, u))
    ((∃ direction offset e, run.outcome = .error (.access (.bus direction offset e))) ↔
        ∃ call ∈ calls, call.outcome ≠ .ok ()) ∧
      ∀ direction offset e, run.outcome = .error (.access (.bus direction offset e)) →
        direction = request.direction ∧ offset < request.length.toNat ∧
        (∃ earlier last, calls = earlier ++ [last] ∧ (∀ call ∈ earlier, call.outcome = .ok ()) ∧
          last.outcome = .error e ∧ last.direction = request.direction ∧
          offset = (earlier.map BusCall.length).sum ∧
          last.register.toNat = request.register.toNat + offset) ∧
        (request.direction = .write →
          contents run.world.2.1 = (contents b).patch request.register.toNat
              ((memory u).read request.buffer.toNat offset) ∧
            memory run.world.2.2 = memory u) ∧
        (request.direction = .read →
          contents run.world.2.1 = contents b ∧
            memory run.world.2.2 = (memory u).patch request.buffer.toNat
              ((contents b).read request.register.toNat (1024 * (offset / 1024)))) := by
  intro run calls
  have hending := Setting.ending_execute ⟨bus, boundary, contents, Failed, memory, Grants, hbus,
    hboundary⟩ request staging u hchunk hspace
  refine ⟨hending.bus_error_iff, ?_⟩
  intro direction offset e houtcome
  rw [show (execute (bus.beside μ) (boundary.after β) request staging (b, u)).outcome
    = .error (.access (.bus direction offset e)) from houtcome] at hending
  obtain ⟨hdirection, hlt, hreached, earlier, last, hcalls, hadvances, hlastDirection, hregister,
    hlast⟩ := hending.of_bus_error
  have hsum := hadvances.sum_lengths
  refine ⟨hdirection, hlt, ⟨earlier, last, hcalls, ?_, hlast, hlastDirection, by omega,
    hregister⟩, hreached.of_write, hreached.of_read⟩
  intro call hmem
  exact hadvances.outcome_of_mem hmem

/-- Two thousand bytes in chunks of 512, of which the fourth fails, in the second block.  A write
has brought three chunks to the registers; a read has brought one block to caller memory. -/
theorem Endpoint.bus_failure_accounting_second_block :
    let registers : Contents := fun address => UInt8.ofNat address
    let memory : Contents := fun _ => 7
    let register : UInt16 := 0x10
    let buffer : UInt64 := 0x1000
    let request (direction : Direction) : Request := ⟨2000, register, direction, buffer⟩
    let run direction := execute ((RegisterBus.rationed 512).beside Contents)
      (Boundary.whole.after (Contents × Nat)) (request direction) (Scratch.zero _)
      ((registers, 3), memory)
    (run .write).outcome = .error (.access (.bus .write 1536 ())) ∧
      (run .write).world.2.1.1 = registers.patch register.toNat (memory.read buffer.toNat 1536) ∧
      (run .write).world.2.2 = memory ∧
      (run .read).outcome = .error (.access (.bus .read 1536 ())) ∧
      (run .read).world.2.1.1 = registers ∧
      (run .read).world.2.2
        = memory.patch buffer.toNat (registers.read register.toNat 1024) := by
  intro registers memory register buffer request run
  have hwrite : (run .write).outcome = .error (.access (.bus .write 1536 ())) := by
    decide +kernel
  have hread : (run .read).outcome = .error (.access (.bus .read 1536 ())) := by decide +kernel
  have haccounting (direction : Direction) := (bus_failure_accounting
    (RegisterBus.serves_rationed 512) Boundary.honors_whole (request direction) (Scratch.zero _)
    (registers, 3) memory (by decide) (Nat.le_refl _)).2 direction 1536 ()
  obtain ⟨_, _, _, hwritten, _⟩ := haccounting .write hwrite
  obtain ⟨_, _, _, _, hfilled⟩ := haccounting .read hread
  obtain ⟨hregisters, hmemory⟩ := hwritten rfl
  obtain ⟨hregisters', hmemory'⟩ := hfilled rfl
  simp only [run]
  exact ⟨hwrite, hregisters, hmemory, hread, hregisters', hmemory'⟩

end SensorLink

/-
Accesses and the end of the register space.

Sixteen bits name 65536 registers, and an access has to stop at the last one.  What keeps
it from going on is the address limit of its bus, and nothing else: an access that runs
past the register space, but not past the limit, is let through to the bus.

* `RegisterBus.Exact` — the calls of an access are where exact integers put them;
* `RegisterBus.NeverWraps` — so are those of all accesses, and overruns are refused;
* `exact_of_le` — accesses inside of the register space are exact, on every bus;
* `neverWraps_iff` — the rest depends on the limit of the bus;
* `read_past_space` — a bus that promises too much.
-/
import SensorLink.Bench.ScriptedBus
import SensorLink.Proofs.Control.CallsMade
import SensorLink.Proofs.Register.ChunkProtocol

namespace SensorLink.RegisterBus

variable {ω ε : Type}

/-- Each chunk call of the access is a whole number of chunks above its register, in exact
integers, and the access traps only where one of these calls does. -/
structure Exact (bus : RegisterBus ω ε) (direction : Direction) (register : UInt16) (bytes : Bytes)
    (w : ω) : Prop where
  register_eq : ∀ k call, (bus.calls direction register bytes w)[k]? = some call →
    call.register.toNat = register.toNat + k * bus.chunkSize w ∧
      k * bus.chunkSize w < bytes.length
  trap : ∀ t, (bus.access direction register bytes w).outcome = .trap t →
    ∃ call ∈ bus.calls direction register bytes w, call.outcome = .trap t

/-- The access is refused, and the bus is not called. -/
def Refused (bus : RegisterBus ω ε) (direction : Direction) (register : UInt16) (bytes : Bytes)
    (w : ω) : Prop :=
  bus.access direction register bytes w = ⟨.error (.outOfRange register bytes.length), (bytes, w)⟩ ∧
    bus.calls direction register bytes w = []

/-- All accesses are exact, and those that run past the register space are refused. -/
structure NeverWraps (bus : RegisterBus ω ε) (w : ω) : Prop where
  refused : ∀ direction register bytes, registerSpace < register.toNat + bytes.length →
    bus.Refused direction register bytes w
  exact : ∀ direction register bytes, bus.Exact direction register bytes w

variable (bus : RegisterBus ω ε) {direction : Direction} {register : UInt16} {bytes : Bytes} {w : ω}

/-- An access past the limit is refused. -/
theorem refused_of_lt (hlimit : bus.addressLimit w < register.toNat + bytes.length) :
    bus.Refused direction register bytes w := by
  refine ⟨bus.access_of_lt direction register hlimit, ?_⟩
  rw [calls, bus.traced.access_of_lt (w := (w, [])) direction register hlimit, Event.busCalls_nil]

theorem Refused.exact {bus : RegisterBus ω ε} (h : bus.Refused direction register bytes w) :
    bus.Exact direction register bytes w := by
  obtain ⟨hrun, hcalls⟩ := h
  constructor
  · intro k call hget
    rw [hcalls] at hget
    cases hget
  · intro t htrap
    rw [hrun] at htrap
    cases htrap

theorem InChunks.exact {bus : RegisterBus ω ε}
    (h : InChunks direction register.toNat (bus.chunkSize w) bytes.length
      (bus.access direction register bytes w).outcome (bus.calls direction register bytes w)) :
    bus.Exact direction register bytes w := by
  constructor
  · intro k call hget
    obtain ⟨hmoves, hlt⟩ := h.moves k call hget
    exact ⟨hmoves.register_eq, hlt⟩
  · intro t htrap
    -- The access did not succeed, so one of its calls did not, and this is what it reports.
    have hnot : ¬∀ call ∈ bus.calls direction register bytes w, call.outcome = .ok () := by
      rw [← h.ok_iff, htrap]
      exact Outcome.trap_ne_ok
    obtain ⟨call, hmem, hne⟩ : ∃ call ∈ bus.calls direction register bytes w,
        call.outcome ≠ .ok () := by
      simpa only [not_forall, exists_prop] using hnot
    obtain ⟨k, hget⟩ := List.mem_iff_getElem?.mp hmem
    obtain ⟨_, hlast⟩ := h.eq_last k call hget hne
    exact ⟨call, hmem, Outcome.mapError_eq_trap.mp (hlast.symm.trans htrap)⟩

/-- Whatever the bus does, accesses inside of the register space are exact. -/
theorem exact_of_le (hchunk : 0 < bus.chunkSize w)
    (hspace : register.toNat + bytes.length ≤ registerSpace) :
    bus.Exact direction register bytes w := by
  rcases Nat.lt_or_ge (bus.addressLimit w) (register.toNat + bytes.length) with hlt | hlimit
  · exact (bus.refused_of_lt hlt).exact
  · have hmaintains : bus.Maintains direction (bus.chunkSize w) registerSpace (fun _ => True)
        fun _ _ => True :=
      fun _ _ _ _ _ _ _ => ⟨_, _, _, rfl, trivial, trivial⟩
    obtain ⟨outcome, filled, v, hrun, _, hin, _⟩ :=
      hmaintains.access_inChunks register bytes trivial hchunk hlimit hspace hspace
    refine InChunks.exact ?_
    rwa [hrun]

theorem movePieces_log (direction : Direction) (register : UInt16) (pieces : List Span)
    (bytes : Bytes) (w : ω) (log : List (Event ε)) :
    ∃ events, (bus.traced.movePieces direction register pieces bytes (w, log)).world.2.2
      = log ++ events := by
  cases direction with
  | read => exact bus.readSpans_log register pieces bytes w log
  | write => exact bus.writeSpans_log register pieces bytes w log

/-- An access that is let through to the bus calls it. -/
theorem calls_ne_nil (hchunk : 0 < bus.chunkSize w) (hpos : 0 < bytes.length)
    (hlimit : register.toNat + bytes.length ≤ bus.addressLimit w) :
    bus.calls direction register bytes w ≠ [] := by
  -- The first chunk is at the register itself, which is in the register space.
  have hfirst : registerAt register 0 = some (UInt16.ofNat (register.toNat + 0)) :=
    registerAt_of_lt register.toNat_lt
  have hpieces : Span.split (bus.traced.chunkSize (w, [])) bytes.length = _ :=
    Span.split_of_pos hchunk hpos
  rw [calls, bus.traced.access_of_le (w := (w, [])) direction register hlimit hchunk, hpieces,
    movePieces_cons, hfirst]
  simp only [traced_chunk]
  obtain ⟨⟨outcome, chunk, v⟩, hrun⟩ : ∃ run, bus.chunk direction
    (UInt16.ofNat (register.toNat + 0))
    (bytes.take (min (bus.traced.chunkSize (w, [])) bytes.length)) w = run := ⟨_, rfl⟩
  rw [hrun]
  cases outcome with
  | ok =>
    -- The other pieces only add to what is noted.
    intro hnil
    rw [Run.world_mapWorld] at hnil
    obtain ⟨events, hevents⟩ := bus.movePieces_log direction register _ _ v _
    rw [hevents, Event.busCalls_append] at hnil
    exact List.cons_ne_nil _ _ (List.append_eq_nil_iff.mp hnil).1
  | error e => exact List.cons_ne_nil _ _
  | trap t => exact List.cons_ne_nil _ _

theorem refused_iff (hchunk : 0 < bus.chunkSize w)
    (hpast : registerSpace < register.toNat + bytes.length) :
    bus.Refused direction register bytes w ↔
      bus.addressLimit w < register.toNat + bytes.length := by
  constructor
  · rintro ⟨_, hcalls⟩
    by_contra hlimit
    have hregister : register.toNat < registerSpace := register.toNat_lt
    exact bus.calls_ne_nil hchunk (by omega) (Nat.not_lt.mp hlimit) hcalls
  · exact bus.refused_of_lt

/-- No access over a bus wraps iff the bus promises no more registers than there are.  If it
promises more, the accesses past the last register that are let through are those that
end at or below its limit.  Accesses inside of the register space are exact either way. -/
theorem neverWraps_iff (w : ω) (hchunk : 0 < bus.chunkSize w) :
    (bus.NeverWraps w ↔ bus.addressLimit w ≤ registerSpace) ∧
      (∀ direction register bytes, registerSpace < register.toNat + bytes.length →
        (bus.Refused direction register bytes w ↔
          bus.addressLimit w < register.toNat + bytes.length)) ∧
      ∀ direction register bytes, register.toNat + bytes.length ≤ registerSpace →
        bus.Exact direction register bytes w := by
  refine ⟨⟨?_, ?_⟩, fun _ _ _ => bus.refused_iff hchunk, fun _ _ _ => bus.exact_of_le hchunk⟩
  · intro h
    by_contra hlimit
    -- Two bytes from the last register on are the least overrun.
    have hrefused := h.refused .read 0xFFFF [0, 0] (by decide)
    have := (bus.refused_iff hchunk (by decide)).mp hrefused
    have hlength : (0xFFFF : UInt16).toNat + ([0, 0] : Bytes).length = registerSpace + 1 := rfl
    omega
  · intro hlimit
    have hrefused : ∀ direction register bytes, registerSpace < register.toNat + bytes.length →
        bus.Refused direction register bytes w :=
      fun _ _ _ hpast => bus.refused_of_lt (Nat.lt_of_le_of_lt hlimit hpast)
    refine ⟨hrefused, ?_⟩
    intro direction register bytes
    rcases Nat.lt_or_ge registerSpace (register.toNat + bytes.length) with hpast | hspace
    · exact (hrefused direction register bytes hpast).exact
    · exact bus.exact_of_le hchunk hspace

open Bench in
/-- A bus that promises twice the register space lets some accesses past it through. -/
theorem neverWraps_iff_scripted :
    let bus : ScriptedBus := ⟨4, 0x20000, .zero, .ofList [], #[]⟩
    0 < ScriptedBus.registerBus.chunkSize bus ∧ ¬ScriptedBus.registerBus.NeverWraps bus := by
  intro bus
  have hchunk : 0 < ScriptedBus.registerBus.chunkSize bus := by decide
  refine ⟨hchunk, ?_⟩
  intro h
  have hlimit := (neverWraps_iff ScriptedBus.registerBus bus hchunk).1.mp h
  exact absurd hlimit (by decide)

open Bench in
/-- On a bus that promises twice the register space, reading two bytes from the last register
on is one call, or a trap before the second call. -/
theorem read_past_space :
    let bus : Nat → ScriptedBus := fun chunkSize => ⟨chunkSize, 0x20000, .zero, .ofList [], #[]⟩
    let read := fun chunkSize => ScriptedBus.registerBus.read 0xFFFF [7, 7] (bus chunkSize)
    let calls := fun chunkSize =>
      ScriptedBus.registerBus.calls .read 0xFFFF [7, 7] (bus chunkSize)
    (read 2).outcome = .ok () ∧
      calls 2 = [⟨.read, 0xFFFF, RegisterFile.zero.readCyclic 0xFFFF 2, .ok ()⟩] ∧
      (read 1).outcome = .trap .registerOverflow ∧
      calls 1 = [⟨.read, 0xFFFF, RegisterFile.zero.readCyclic 0xFFFF 1, .ok ()⟩] :=
  ⟨rfl, rfl, rfl, rfl⟩

end SensorLink.RegisterBus

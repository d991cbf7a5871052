/-
Runs as nothing but their chunk calls.

Whatever is done over a bus, all that happens to the bus are its chunk calls.  Made again
one after the other, they lead to the same world.  So a run of any jobs is known once it
is known what a single chunk call does.

* `RegisterBus.Replays` — the calls lead from one world to another;
* `Job.replays` — those of any run of jobs lead to where the run ends;
* `BusCall.store` — what a call leaves in the registers;
* `RegisterBus.Recalls` — calls that find the registers as the calls before them left them;
* `Serves.recalls` — such are the calls of every run over a bus that serves registers.
-/
import SensorLink.Proofs.Jobs

namespace SensorLink

variable {ω ε μ ι ρ : Type}

/-- The calls, made one after the other with some bytes handed to each, end as noted and
lead from `w` to another world. -/
inductive RegisterBus.Replays (bus : RegisterBus ω ε) (w : ω) : List (BusCall ε) → ω → Prop
  | nil : Replays bus w [] w
  | snoc {calls : List (BusCall ε)} {call : BusCall ε} {handed : Bytes} {v u : ω} :
      Replays bus w calls v →
      bus.chunk call.direction call.register handed v = ⟨call.outcome, (call.bytes, u)⟩ →
      Replays bus w (calls ++ [call]) u

/-- The calls of a recorder lead to where the run has come. -/
theorem RegisterBus.invariant_replays (bus : RegisterBus ω ε) (w : ω) :
    bus.traced.Invariant fun p => bus.Replays w (Event.busCalls p.2) p.1 where
  readChunk := by
    rintro register buffer ⟨v, log⟩ hreplays
    obtain ⟨⟨outcome, filled, u⟩, hrun⟩ : ∃ run, bus.readChunk register buffer v = run := ⟨_, rfl⟩
    simp only [RegisterBus.traced, hrun, Event.busCalls_append]
    show bus.Replays w (Event.busCalls log ++ [⟨.read, register, filled, outcome⟩]) u
    exact .snoc hreplays hrun
  writeChunk := by
    rintro register data ⟨v, log⟩ hreplays
    obtain ⟨⟨outcome, u⟩, hrun⟩ : ∃ run, bus.writeChunk register data v = run := ⟨_, rfl⟩
    have hchunk : bus.chunk .write register data v = ⟨outcome, (data, u)⟩ := by
      simp only [RegisterBus.chunk, hrun, Run.mapWorld]
    simp only [RegisterBus.traced, hrun, Event.busCalls_append]
    show bus.Replays w (Event.busCalls log ++ [⟨.write, register, data, outcome⟩]) u
    exact .snoc hreplays hchunk

/-- The chunk calls of a run of jobs lead to where the run ends. -/
theorem Job.replays (bridge : Bridge ι ρ) (boundary : Boundary μ) (bus : RegisterBus ω ε)
    (jobs : List (Job μ ι)) (endpoint : Endpoint ρ) (w : ω) :
    bus.Replays w (calls bridge boundary bus jobs endpoint w)
      (runAll bridge bus boundary jobs (endpoint, w)).2.2 := by
  have hkeeps := runAll_keeps bridge (bus.invariant_replays w) boundary jobs endpoint
    (w := (w, [])) .nil
  obtain ⟨log, htraced⟩ := runAll_traced bridge boundary bus jobs endpoint w
  rw [calls]
  rw [htraced] at hkeeps ⊢
  exact hkeeps

/-- A call hands over as many bytes as it gives back. -/
theorem RegisterBus.length_of_chunk {bus : RegisterBus ω ε} {direction : Direction}
    {register : UInt16} {handed bytes : Bytes} {outcome : Outcome ε Unit} {v u : ω}
    (h : bus.chunk direction register handed v = ⟨outcome, (bytes, u)⟩) :
    handed.length = bytes.length := by
  have := bus.length_chunk direction register handed v
  rw [h] at this
  exact this.symm

/-! ### Calls on registers -/

/-- What a call leaves in the registers: a write that succeeds stores its bytes. -/
def BusCall.store (contents : Contents) (call : BusCall ε) : Contents :=
  match call.direction, call.outcome with
  | .write, .ok _ => contents.patch call.register.toNat call.bytes
  | _, _ => contents

theorem BusCall.store_of_read (contents : Contents) {call : BusCall ε}
    (h : call.direction = .read) : call.store contents = contents := by
  rw [store, h]

namespace RegisterBus

/-- From registers that hold `start`, the calls leave them holding `stop`, and every read
that succeeds has found what the calls before it left in the registers it asked for. -/
structure Recalls (start : Contents) (calls : List (BusCall ε)) (stop : Contents) : Prop where
  contents_eq : stop = calls.foldl BusCall.store start
  found : ∀ earlier call later, calls = earlier ++ call :: later → call.direction = .read →
    call.outcome = .ok () →
      call.bytes = (earlier.foldl BusCall.store start).read call.register.toNat call.length

namespace Recalls

variable {start mid : Contents} {calls : List (BusCall ε)}

theorem nil (start : Contents) : Recalls start ([] : List (BusCall ε)) start where
  contents_eq := rfl
  found earlier call later h := by cases (List.append_eq_nil_iff.mp h.symm).2

theorem snoc (h : Recalls start calls mid) {call : BusCall ε}
    (hfound : call.direction = .read → call.outcome = .ok () →
      call.bytes = mid.read call.register.toNat call.length) :
    Recalls start (calls ++ [call]) (call.store mid) where
  contents_eq := by rw [List.foldl_append, ← h.contents_eq]; rfl
  found earlier other later hsplit := by
    -- The call in question is the last one, or one of those before it.
    rcases List.eq_nil_or_concat later with rfl | ⟨later, last, rfl⟩
    · obtain ⟨rfl, hlast⟩ := List.append_inj' hsplit rfl
      obtain rfl : call = other := List.singleton_inj.mp hlast
      rwa [← h.contents_eq]
    · rw [List.concat_eq_append, ← List.cons_append, ← List.append_assoc] at hsplit
      exact h.found earlier other later (List.append_inj' hsplit rfl).1

end Recalls

variable {bus : RegisterBus ω ε} {contents : ω → Contents} {Failed : ω → Prop} {w v u : ω}

/-- A call that succeeds within reach has read the registers or written them; one that fails
has changed nothing. -/
theorem Serves.chunk_store (h : bus.Serves contents Failed) {call : BusCall ε} {handed : Bytes}
    (hreach : bus.Reaches call.register call.length v)
    (hrun : bus.chunk call.direction call.register handed v = ⟨call.outcome, (call.bytes, u)⟩) :
    bus.Keeps Failed v u ∧ contents u = call.store (contents v) ∧
      (call.direction = .read → call.outcome = .ok () →
        call.bytes = (contents v).read call.register.toNat call.length) := by
  have hlength : call.length = handed.length := (length_of_chunk hrun).symm
  rw [hlength] at hreach
  obtain ⟨direction, register, bytes, outcome⟩ := call
  cases direction with
  | read =>
    obtain ⟨outcome', filled, u', hchunk, hkeeps, hsame, hends⟩ :=
      h.readChunk register handed v hreach
    obtain ⟨rfl, rfl, rfl⟩ : outcome' = outcome ∧ filled = bytes ∧ u' = u := by
      have := hchunk.symm.trans hrun
      simpa only [Run.mk.injEq, Prod.mk.injEq] using this
    refine ⟨hkeeps, hsame.trans (BusCall.store_of_read _ rfl).symm, ?_⟩
    rintro _ rfl
    obtain ⟨_, hfilled⟩ | ⟨e, he, _⟩ := hends
    · rw [hlength]
      exact hfilled
    · cases he
  | write =>
    obtain ⟨outcome', u', hchunk, hkeeps, hends⟩ := h.writeChunk register handed v hreach
    obtain ⟨rfl, rfl, rfl⟩ : outcome' = outcome ∧ handed = bytes ∧ u' = u := by
      simp only [chunk, hchunk, Run.mapWorld, Run.mk.injEq, Prod.mk.injEq] at hrun
      exact hrun
    refine ⟨hkeeps, ?_, fun hread => by cases hread⟩
    rcases hends with ⟨rfl, hpatch⟩ | ⟨e, rfl, hsame, _⟩
    · exact hpatch
    · exact hsame

/-- Every run of calls within reach finds the registers as its own calls have left them. -/
theorem Serves.recalls (h : bus.Serves contents Failed) {calls : List (BusCall ε)}
    (hreplays : bus.Replays w calls v)
    (hreach : ∀ call ∈ calls, bus.Reaches call.register call.length w) :
    bus.Keeps Failed w v ∧ Recalls (contents w) calls (contents v) := by
  induction hreplays with
  | nil => exact ⟨.refl .., .nil _⟩
  | @snoc calls call handed v u _ hrun ih =>
    obtain ⟨hkeeps, hrecalls⟩ := ih fun other hmem => hreach other (List.mem_append_left _ hmem)
    -- The reach of the bus is still that of the first world.
    obtain ⟨hpos, hsize, hlimit⟩ := hreach call (List.mem_append_right _ List.mem_cons_self)
    obtain ⟨hkeeps', hstore, hfound⟩ := h.chunk_store
      ⟨hpos, hkeeps.chunkSize ▸ hsize, hkeeps.addressLimit ▸ hlimit⟩ hrun
    refine ⟨hkeeps.trans hkeeps', ?_⟩
    rw [hstore]
    exact hrecalls.snoc hfound

end RegisterBus

end SensorLink

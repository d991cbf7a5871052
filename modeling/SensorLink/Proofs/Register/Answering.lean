/-
Buses that always answer.

A bus answers if no chunk call within its reach ends in a trap.  Then no access over it
does, and the calls of an access are within reach, each of them where exact integers put
it.  Nothing is assumed about what the calls do to the registers.

* `Outcome.Settled` — a value or an error;
* `RegisterBus.Answers` — the contract of the chunk calls;
* `RegisterBus.Behaves` — calls within reach of a bus, which leave its reach as it was;
* `Contiguous` — calls that follow one another without gap or overlap;
* `RegisterBus.Carried` — how a run of calls for one range of registers ends;
* `Answers.access_carried` — every access is such a run.
-/
import SensorLink.Proofs.Register.ChunkProtocol

namespace SensorLink

variable {ω ε δ α β : Type}

/-! ### Values and errors -/

namespace Outcome

@[simp] theorem settled_ok (a : α) : (ok a : Outcome ε α).Settled := trivial

@[simp] theorem settled_error (e : ε) : (error e : Outcome ε α).Settled := trivial

@[simp] theorem not_settled_trap (t : Trap) : ¬(trap t : Outcome ε α).Settled := id

@[simp] theorem settled_map (f : α → β) (outcome : Outcome ε α) :
    (outcome.map f).Settled ↔ outcome.Settled := by
  cases outcome <;> rfl

@[simp] theorem settled_mapError (f : ε → δ) (outcome : Outcome ε α) :
    (outcome.mapError f).Settled ↔ outcome.Settled := by
  cases outcome <;> rfl

end Outcome

/-! ### The contract of a chunk call -/

/-- Chunk calls within reach of the bus are answered, and leave its reach as it was. -/
structure RegisterBus.Answers (bus : RegisterBus ω ε) : Prop where
  readChunk : ∀ register buffer w, bus.Reaches register buffer.length w →
    (bus.readChunk register buffer w).outcome.Settled ∧
      bus.Keeps (fun _ => False) w (bus.readChunk register buffer w).world.2
  writeChunk : ∀ register data w, bus.Reaches register data.length w →
    (bus.writeChunk register data w).outcome.Settled ∧
      bus.Keeps (fun _ => False) w (bus.writeChunk register data w).world

/-- A bus that serves registers answers. -/
theorem RegisterBus.Serves.answers {bus : RegisterBus ω ε} {contents : ω → Contents}
    {Failed : ω → Prop} (h : bus.Serves contents Failed) : bus.Answers where
  readChunk register buffer w hreach := by
    obtain ⟨outcome, filled, v, hrun, hkeeps, _, hends⟩ := h.readChunk register buffer w hreach
    rw [hrun]
    refine ⟨?_, hkeeps.chunkSize, hkeeps.addressLimit, id⟩
    rcases hends with ⟨rfl, _⟩ | ⟨e, rfl, _⟩
    · trivial
    · trivial
  writeChunk register data w hreach := by
    obtain ⟨outcome, v, hrun, hkeeps, hends⟩ := h.writeChunk register data w hreach
    rw [hrun]
    refine ⟨?_, hkeeps.chunkSize, hkeeps.addressLimit, id⟩
    rcases hends with ⟨rfl, _⟩ | ⟨e, rfl, _⟩
    · trivial
    · trivial

/-! ### What is known of a run of calls -/

/-- The calls of a run are within reach of the bus, and its reach is as before. -/
structure RegisterBus.Behaves (bus : RegisterBus ω ε) (w : ω) (calls : List (BusCall ε)) (v : ω) :
    Prop where
  keeps : bus.Keeps (fun _ => False) w v
  reaches : ∀ call ∈ calls, bus.Reaches call.register call.length w

namespace RegisterBus.Behaves

variable {bus : RegisterBus ω ε} {w v u : ω} {calls more : List (BusCall ε)}

theorem refl (bus : RegisterBus ω ε) (w : ω) : bus.Behaves w [] w :=
  ⟨.refl .., fun _ hmem => absurd hmem List.not_mem_nil⟩

theorem append (h : bus.Behaves w calls v) (h' : bus.Behaves v more u) :
    bus.Behaves w (calls ++ more) u := by
  refine ⟨h.keeps.trans h'.keeps, ?_⟩
  intro call hmem
  rcases List.mem_append.mp hmem with hmem | hmem
  · exact h.reaches call hmem
  -- The reach of the bus is the same after the first calls.
  · obtain ⟨hpos, hsize, hlimit⟩ := h'.reaches call hmem
    exact ⟨hpos, h.keeps.chunkSize ▸ hsize, h.keeps.addressLimit ▸ hlimit⟩

end RegisterBus.Behaves

/-- Calls in one direction from one address up to another, each of them where the one
before it stopped. -/
inductive Contiguous (direction : Direction) : Nat → List (BusCall ε) → Nat → Prop
  | nil (address : Nat) : Contiguous direction address [] address
  | cons {address stop : Nat} {call : BusCall ε} {calls : List (BusCall ε)} :
      call.direction = direction → call.register.toNat = address →
      Contiguous direction (address + call.length) calls stop →
      Contiguous direction address (call :: calls) stop

namespace Contiguous

theorem append {direction : Direction} {start mid stop : Nat} {calls more : List (BusCall ε)}
    (h : Contiguous direction start calls mid) (h' : Contiguous direction mid more stop) :
    Contiguous direction start (calls ++ more) stop := by
  induction h with
  | nil => exact h'
  | cons hdirection hregister _ ih => exact .cons hdirection hregister (ih h')

end Contiguous

/-- The calls of an access are contiguous, and make up all of it if it succeeds. -/
theorem ChunkRun.contiguous {direction : Direction} {register size start stop : Nat}
    {Post : Bytes → BusCall ε → Prop} {pieces : List Span} {bytes : Bytes}
    {calls : List (BusCall ε)} {outcome : Outcome (AccessError ε) Unit}
    (h : ChunkRun direction register Post pieces bytes calls outcome)
    (htiles : Span.Tiles size start pieces stop) :
    ∃ reached, Contiguous direction (register + start) calls (register + reached) ∧
      reached ≤ stop ∧ (outcome = .ok () → reached = stop) := by
  induction h generalizing start with
  | nil =>
    cases htiles with
    | nil => exact ⟨_, .nil _, Nat.le_refl _, fun _ => rfl⟩
  | @cons piece pieces _ call calls outcome hmoves _ _ _ ih =>
    cases htiles with
    | cons _ _ _ htail =>
      obtain ⟨reached, hcalls, hle, hok⟩ := ih htail
      refine ⟨reached, .cons hmoves.direction_eq hmoves.register_eq ?_, hle, hok⟩
      rwa [hmoves.length_eq, Nat.add_assoc]
  | @last piece _ _ call hmoves _ hne =>
    cases htiles with
    | @cons _ length _ _ _ _ _ htail =>
      refine ⟨_ + length, .cons hmoves.direction_eq hmoves.register_eq ?_, htail.le, ?_⟩
      · rw [hmoves.length_eq, Nat.add_assoc]
        exact .nil _
      · exact fun hok => absurd (Outcome.mapError_eq_ok.mp hok) hne

/-- The calls that move a range of registers, up to where they came, and the ending. -/
structure RegisterBus.Carried (bus : RegisterBus ω ε) (direction : Direction) (start length : Nat)
    (w : ω) (outcome : Outcome δ Unit) (calls : List (BusCall ε)) (v : ω) : Prop where
  settled : outcome.Settled
  behaves : bus.Behaves w calls v
  contiguous : ∃ reached, Contiguous direction start calls (start + reached) ∧
    reached ≤ length ∧ (outcome = .ok () → reached = length)

/-- A run that ended before its first call. -/
theorem RegisterBus.Carried.stopped (bus : RegisterBus ω ε) (direction : Direction)
    (start length : Nat) (w : ω) (e : δ) :
    bus.Carried direction start length w (.error e) [] w :=
  ⟨trivial, .refl .., 0, .nil _, Nat.zero_le _, fun h => absurd h Outcome.error_ne_ok⟩

/-! ### Accesses -/

namespace RegisterBus.Answers

variable {bus : RegisterBus ω ε}

theorem maintains (h : bus.Answers) (direction : Direction) (w : ω) :
    bus.Maintains direction (bus.chunkSize w) (bus.addressLimit w)
      (bus.Keeps (fun _ => False) w)
      fun _ call => call.outcome.Settled ∧ bus.Reaches call.register call.length w := by
  intro register bytes v hpos hsize hstop hkeeps
  have hreach : bus.Reaches register bytes.length v :=
    ⟨hpos, hkeeps.chunkSize ▸ hsize, hkeeps.addressLimit ▸ hstop⟩
  have hlength := bus.length_chunk direction register bytes v
  obtain ⟨⟨outcome, filled, u⟩, hrun⟩ : ∃ run, bus.chunk direction register bytes v = run :=
    ⟨_, rfl⟩
  have hanswer : outcome.Settled ∧ bus.Keeps (fun _ => False) v u := by
    cases direction with
    | read =>
      have := h.readChunk register bytes v hreach
      rwa [show bus.readChunk register bytes v = _ from hrun] at this
    | write =>
      have := h.writeChunk register bytes v hreach
      obtain ⟨rfl, rfl⟩ : (bus.writeChunk register bytes v).outcome = outcome ∧
        (bus.writeChunk register bytes v).world = u :=
        ⟨congrArg Run.outcome hrun, congrArg (fun run => run.world.2) hrun⟩
      exact this
  rw [hrun] at hlength
  refine ⟨outcome, filled, u, hrun, hkeeps.trans hanswer.2, hanswer.1, ?_⟩
  rw [BusCall.length, show filled.length = _ from hlength]
  exact ⟨hpos, hsize, hstop⟩

/-- Every access ends in a value or an error, by calls that are where they should be. -/
theorem access_carried (h : bus.Answers) (direction : Direction) (register : UInt16)
    (bytes : Bytes) (w : ω) (log : List (Event ε)) (hchunk : 0 < bus.chunkSize w)
    (hspace : bus.addressLimit w ≤ registerSpace) :
    ∃ outcome filled v calls,
      bus.traced.access direction register bytes (w, log)
          = ⟨outcome, (filled, (v, log ++ calls.map .bus))⟩ ∧
        bus.Carried direction register.toNat bytes.length w outcome calls v ∧
        ∀ direction offset e, outcome = .error (.bus direction offset e) →
          offset < bytes.length := by
  rcases Nat.lt_or_ge (bus.addressLimit w) (register.toNat + bytes.length) with hlt | hlimit
  · refine ⟨.error (.outOfRange register bytes.length), bytes, w, [], ?_, .stopped ..,
      fun _ _ _ h => by cases h⟩
    rw [bus.traced.access_of_lt (w := (w, log)) direction register hlt, List.map_nil,
      List.append_nil]
  obtain ⟨outcome, filled, v, calls, hrun, hchunks, hkeeps, _⟩ :=
    (h.maintains direction w).access register bytes log (.refl ..) hchunk hlimit hlimit
      (Nat.le_trans hlimit hspace)
  have hin := hchunks.inChunks hchunk
  have hpost : ∀ call ∈ calls, call.outcome.Settled ∧ bus.Reaches call.register call.length w := by
    intro call hmem
    obtain ⟨k, hget⟩ := List.mem_iff_getElem?.mp hmem
    obtain ⟨_, _, _, hpost⟩ := hchunks.of_getElem? hget
    exact hpost
  -- An access that did not succeed reports the call that did not.
  have hlast : outcome = .ok () ∨ ∃ k call, calls[k]? = some call ∧
      k * bus.chunkSize w < bytes.length ∧
        outcome = call.outcome.mapError (.bus direction (k * bus.chunkSize w)) := by
    by_cases hall : ∀ call ∈ calls, call.outcome = .ok ()
    · exact .inl (hin.ok_iff.mpr hall)
    · simp only [not_forall, exists_prop] at hall
      obtain ⟨call, hmem, hne⟩ := hall
      obtain ⟨k, hget⟩ := List.mem_iff_getElem?.mp hmem
      exact .inr ⟨k, call, hget, (hin.moves k call hget).2, (hin.eq_last k call hget hne).2⟩
  refine ⟨outcome, filled, v, calls, hrun, ⟨?_, ⟨hkeeps, fun call hmem => (hpost call hmem).2⟩, ?_⟩,
    ?_⟩
  · rcases hlast with rfl | ⟨k, call, hget, _, rfl⟩
    · trivial
    · rw [Outcome.settled_mapError]
      exact (hpost call (List.mem_of_getElem? hget)).1
  · obtain ⟨reached, hcalls, hle, hok⟩ :=
      hchunks.contiguous (Span.tiles_split hchunk bytes.length)
    exact ⟨reached, hcalls, hle, hok⟩
  · rintro direction' offset e rfl
    rcases hlast with h | ⟨k, call, _, hlt, h⟩
    · cases h
    · obtain ⟨_, _, he⟩ := Outcome.mapError_eq_error.mp h.symm
      cases he
      exact hlt

end RegisterBus.Answers

end SensorLink

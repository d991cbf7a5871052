/-
The chunk calls of an access, on any bus.

An access in either direction hands its pieces to the bus one after the other, and stops
at the first call that does not succeed.  That much holds of every bus; what the calls
do to the registers does not matter here.

* `RegisterBus.chunk`, `RegisterBus.access` — calls and accesses in either direction;
* `RegisterBus.calls` — the chunk calls of an access;
* `RegisterBus.Maintains` — what chunk calls keep, and what is known of each of them;
* `ChunkRun` — the calls of an access, piece by piece, and how it ends;
* `Maintains.movePieces`, `Maintains.access` — every access within the register space
  is such a run;
* `ChunkRun.of_getElem?`, `ChunkRun.ok_iff`, `ChunkRun.eq_last` — where the calls are,
  when the access succeeds, and what it reports otherwise.

Design notes.  A write changes nothing about its bytes, so giving them back unchanged
makes it look like a read.  Both loops then satisfy one equation, `movePieces_cons`, and
one induction serves both.
-/
import SensorLink.Proofs.Register.Serving

namespace SensorLink

variable {ω ε : Type}

/-! ### Accesses in either direction -/

namespace RegisterBus

/-- A chunk call.  The bytes beside the final world are those that were written, or the
buffer after a read. -/
def chunk (bus : RegisterBus ω ε) (direction : Direction) (register : UInt16) (bytes : Bytes)
    (w : ω) : Run (Bytes × ω) ε Unit :=
  match direction with
  | .read => bus.readChunk register bytes w
  | .write => (bus.writeChunk register bytes w).mapWorld fun w => (bytes, w)

/-- The pieces of an access, moved in order. -/
def movePieces (bus : RegisterBus ω ε) (direction : Direction) (register : UInt16)
    (pieces : List Span) (bytes : Bytes) (w : ω) : Run (Bytes × ω) (AccessError ε) Unit :=
  match direction with
  | .read => bus.readSpans register pieces bytes w
  | .write => (bus.writeSpans register pieces bytes w).mapWorld fun w => (bytes, w)

/-- An access to the registers from `register` up. -/
def access (bus : RegisterBus ω ε) (direction : Direction) (register : UInt16) (bytes : Bytes)
    (w : ω) : Run (Bytes × ω) (AccessError ε) Unit :=
  match direction with
  | .read => bus.read register bytes w
  | .write => (bus.write register bytes w).mapWorld fun w => (bytes, w)

/-- The chunk calls of an access, in order. -/
def calls (bus : RegisterBus ω ε) (direction : Direction) (register : UInt16) (bytes : Bytes)
    (w : ω) : List (BusCall ε) :=
  Event.busCalls (bus.traced.access direction register bytes (w, [])).world.2.2

variable (bus : RegisterBus ω ε) (direction : Direction) (register : UInt16)

theorem movePieces_nil (bytes : Bytes) (w : ω) :
    bus.movePieces direction register [] bytes w = ⟨.ok (), (bytes, w)⟩ := by
  cases direction <;> rfl

theorem movePieces_cons (piece : Span) (pieces : List Span) (bytes : Bytes) (w : ω) :
    bus.movePieces direction register (piece :: pieces) bytes w
      = match registerAt register piece.offset with
        | none => ⟨.trap .registerOverflow, (bytes, w)⟩
        | some target =>
          match bus.chunk direction target (bytes.take piece.length) w with
          | ⟨.ok _, (chunk, w)⟩ =>
            (bus.movePieces direction register pieces (bytes.drop piece.length) w).mapWorld
              fun p => (chunk ++ p.1, p.2)
          | ⟨.error e, (chunk, w)⟩ =>
            ⟨.error (.bus direction piece.offset e), (chunk ++ bytes.drop piece.length, w)⟩
          | ⟨.trap t, (chunk, w)⟩ => ⟨.trap t, (chunk ++ bytes.drop piece.length, w)⟩ := by
  cases direction with
  | read => rfl
  | write =>
    simp only [movePieces, chunk, writeSpans]
    cases registerAt register piece.offset with
    | none => rfl
    | some target =>
      simp only
      rcases bus.writeChunk target (bytes.take piece.length) w with ⟨_ | e | t, v⟩
      -- The bytes of a write are put together again from the chunk and the rest.
      · simp only [Run.mapWorld, List.take_append_drop]
      · simp only [Run.mapWorld, List.take_append_drop]
      · simp only [Run.mapWorld, List.take_append_drop]

/-- An access within the limit goes on to its pieces. -/
theorem access_of_le {bytes : Bytes} {w : ω}
    (hlimit : register.toNat + bytes.length ≤ bus.addressLimit w) (hchunk : 0 < bus.chunkSize w) :
    bus.access direction register bytes w
      = bus.movePieces direction register (Span.split (bus.chunkSize w) bytes.length) bytes w := by
  cases direction with
  | read => exact bus.read_of_le hlimit hchunk
  | write => rw [access, movePieces, bus.write_of_le hlimit hchunk]

/-- An access past the limit is refused. -/
theorem access_of_lt {bytes : Bytes} {w : ω}
    (hlimit : bus.addressLimit w < register.toNat + bytes.length) :
    bus.access direction register bytes w
      = ⟨.error (.outOfRange register bytes.length), (bytes, w)⟩ := by
  cases direction with
  | read => exact bus.read_of_lt hlimit
  | write =>
    rw [access, bus.write_of_lt hlimit]
    rfl

/-- A recorder notes a chunk call with its ending. -/
theorem traced_chunk (bytes : Bytes) (w : ω) (log : List (Event ε)) :
    bus.traced.chunk direction register bytes (w, log)
      = ⟨(bus.chunk direction register bytes w).outcome,
          ((bus.chunk direction register bytes w).world.1,
            ((bus.chunk direction register bytes w).world.2,
              log ++ [.bus ⟨direction, register, (bus.chunk direction register bytes w).world.1,
                (bus.chunk direction register bytes w).outcome⟩]))⟩ := by
  cases direction <;> rfl

theorem length_chunk (bytes : Bytes) (w : ω) :
    (bus.chunk direction register bytes w).world.1.length = bytes.length := by
  cases direction with
  | read => exact bus.length_readChunk register bytes w
  | write => rfl

/-- An access ends as it does without the recorder. -/
theorem access_traced (bytes : Bytes) (w : ω) (log : List (Event ε)) :
    (bus.traced.access direction register bytes (w, log)).outcome
        = (bus.access direction register bytes w).outcome ∧
      (bus.traced.access direction register bytes (w, log)).world.1
        = (bus.access direction register bytes w).world.1 ∧
      (bus.traced.access direction register bytes (w, log)).world.2.1
        = (bus.access direction register bytes w).world.2 := by
  cases direction with
  | read => exact bus.read_traced register bytes w log
  | write =>
    obtain ⟨houtcome, hworld⟩ := bus.write_traced register bytes w log
    exact ⟨houtcome, rfl, hworld⟩

end RegisterBus

/-! ### Runs of chunk calls -/

/-- The call moves a piece of an access to `register`, in exact integers. -/
structure BusCall.Moves (call : BusCall ε) (direction : Direction) (register : Nat)
    (piece : Span) : Prop where
  direction_eq : call.direction = direction
  register_eq : call.register.toNat = register + piece.offset
  length_eq : call.length = piece.length

/-- The calls of an access, one for each piece until one of them does not succeed.  Each
call is related by `Post` to the bytes that it was handed. -/
inductive ChunkRun (direction : Direction) (register : Nat) (Post : Bytes → BusCall ε → Prop) :
    List Span → Bytes → List (BusCall ε) → Outcome (AccessError ε) Unit → Prop
  | nil (bytes : Bytes) : ChunkRun direction register Post [] bytes [] (.ok ())
  | cons {piece : Span} {pieces : List Span} {bytes : Bytes} {call : BusCall ε}
      {calls : List (BusCall ε)} {outcome : Outcome (AccessError ε) Unit} :
      call.Moves direction register piece → Post (bytes.take piece.length) call →
      call.outcome = .ok () →
      ChunkRun direction register Post pieces (bytes.drop piece.length) calls outcome →
      ChunkRun direction register Post (piece :: pieces) bytes (call :: calls) outcome
  | last {piece : Span} {pieces : List Span} {bytes : Bytes} {call : BusCall ε} :
      call.Moves direction register piece → Post (bytes.take piece.length) call →
      call.outcome ≠ .ok () →
      ChunkRun direction register Post (piece :: pieces) bytes [call]
        (call.outcome.mapError (.bus direction piece.offset))

namespace RegisterBus

/-- Chunk calls of at most `size` bytes that end at or below `stop` keep `Inv`, and satisfy
`Post` with the bytes that they are handed. -/
def Maintains (bus : RegisterBus ω ε) (direction : Direction) (size stop : Nat)
    (Inv : ω → Prop) (Post : Bytes → BusCall ε → Prop) : Prop :=
  ∀ register bytes w, 0 < bytes.length → bytes.length ≤ size →
    register.toNat + bytes.length ≤ stop → Inv w →
    ∃ outcome filled v, bus.chunk direction register bytes w = ⟨outcome, (filled, v)⟩ ∧ Inv v ∧
      Post bytes ⟨direction, register, filled, outcome⟩

namespace Maintains

variable {bus : RegisterBus ω ε} {direction : Direction} {size limit : Nat} {Inv : ω → Prop}
  {Post : Bytes → BusCall ε → Prop}

theorem movePieces (h : bus.Maintains direction size limit Inv Post) (register : UInt16)
    {start stop : Nat} {pieces : List Span} (htiles : Span.Tiles size start pieces stop)
    (bytes : Bytes) (w : ω) (log : List (Event ε)) (hw : Inv w)
    (hlimit : register.toNat + stop ≤ limit) (hspace : register.toNat + stop ≤ registerSpace)
    (hbytes : start + bytes.length = stop) :
    ∃ outcome filled v calls,
      bus.traced.movePieces direction register pieces bytes (w, log)
          = ⟨outcome, (filled, (v, log ++ calls.map .bus))⟩ ∧
        ChunkRun direction register.toNat Post pieces bytes calls outcome ∧ Inv v ∧
        filled = calls.flatMap BusCall.bytes ++ bytes.drop (calls.map BusCall.length).sum := by
  -- The induction is on the tiling; the invariant is carried from one call to the next.
  induction htiles generalizing bytes w log with
  | nil offset =>
    refine ⟨.ok (), bytes, w, [], ?_, .nil _, hw, rfl⟩
    rw [movePieces_nil, List.map_nil, List.append_nil]
  | @cons offset length stop pieces _ hpos hle htail ih =>
    have hstop := htail.le
    have htake : (bytes.take length).length = length := by rw [List.length_take]; omega
    obtain ⟨target, htarget, haddress⟩ :=
      Serves.registerAt_piece register offset
        (show register.toNat + offset < registerSpace by omega) (Nat.le_refl _)
    obtain ⟨outcome, filled, v, hrun, hv, hpost⟩ :=
      h target (bytes.take length) w (by omega) (by omega) (by omega) hw
    have hfilled : filled.length = length := by
      have := bus.length_chunk direction target (bytes.take length) w
      rw [hrun, htake] at this
      exact this
    have htraced := bus.traced_chunk direction target (bytes.take length) w log
    rw [hrun] at htraced
    have hmoves : BusCall.Moves (⟨direction, target, filled, outcome⟩ : BusCall ε) direction
        register.toNat ⟨offset, length⟩ := ⟨rfl, haddress, hfilled⟩
    simp only [movePieces_cons, htarget, htraced]
    rcases outcome with ⟨⟩ | e | t
    · obtain ⟨outcome, rest, u, calls, hrest, hchunks, hu, hsplit⟩ :=
        ih (bytes.drop length) v (log ++ [.bus ⟨direction, target, filled, .ok ()⟩]) hv hlimit
          hspace (by rw [List.length_drop]; omega)
      refine ⟨outcome, filled ++ rest, u, ⟨direction, target, filled, .ok ()⟩ :: calls, ?_,
        .cons hmoves hpost rfl hchunks, hu, ?_⟩
      · simp only [hrest, Run.mapWorld, List.map_cons, List.append_assoc, List.singleton_append]
      -- The rest of the bytes is cut where the calls of the rest stopped.
      · rw [hsplit, List.flatMap_cons, List.map_cons, List.sum_cons, List.append_assoc,
          List.drop_drop]
        exact congrArg (fun n => filled ++ (calls.flatMap BusCall.bytes ++ bytes.drop n))
          (congrArg (· + _) hfilled.symm)
    · refine ⟨_, _, v, [⟨direction, target, filled, .error e⟩], rfl,
        .last hmoves hpost (fun h => by cases h), hv, ?_⟩
      simp only [List.flatMap_cons, List.flatMap_nil, List.append_nil, List.map_cons, List.map_nil,
        List.sum_cons, List.sum_nil, Nat.add_zero, BusCall.length, hfilled]
    · refine ⟨_, _, v, [⟨direction, target, filled, .trap t⟩], rfl,
        .last hmoves hpost (fun h => by cases h), hv, ?_⟩
      simp only [List.flatMap_cons, List.flatMap_nil, List.append_nil, List.map_cons, List.map_nil,
        List.sum_cons, List.sum_nil, Nat.add_zero, BusCall.length, hfilled]

/-- Every access within the limit and the register space is a run of chunk calls. -/
theorem access {w : ω} (h : bus.Maintains direction (bus.chunkSize w) limit Inv Post)
    (register : UInt16) (bytes : Bytes) (log : List (Event ε)) (hw : Inv w)
    (hchunk : 0 < bus.chunkSize w) (hreach : register.toNat + bytes.length ≤ bus.addressLimit w)
    (hlimit : register.toNat + bytes.length ≤ limit)
    (hspace : register.toNat + bytes.length ≤ registerSpace) :
    ∃ outcome filled v calls,
      bus.traced.access direction register bytes (w, log)
          = ⟨outcome, (filled, (v, log ++ calls.map .bus))⟩ ∧
        ChunkRun direction register.toNat Post (Span.split (bus.chunkSize w) bytes.length) bytes
          calls outcome ∧ Inv v ∧
        filled = calls.flatMap BusCall.bytes ++ bytes.drop (calls.map BusCall.length).sum := by
  rw [bus.traced.access_of_le (w := (w, log)) direction register hreach hchunk]
  exact h.movePieces register (Span.tiles_split hchunk bytes.length) bytes w log hw hlimit hspace
    (Nat.zero_add _)

end Maintains

end RegisterBus

/-! ### What a run of chunk calls tells -/

namespace ChunkRun

variable {direction : Direction} {register : Nat} {Post : Bytes → BusCall ε → Prop}
  {pieces : List Span} {bytes : Bytes} {calls : List (BusCall ε)}
  {outcome : Outcome (AccessError ε) Unit}

/-- Call `k` of a run moves piece `k`.  It satisfies `Post` with its part of the bytes, which
goes on where the calls before it stopped. -/
theorem of_getElem? (h : ChunkRun direction register Post pieces bytes calls outcome) {k : Nat}
    {call : BusCall ε} (hget : calls[k]? = some call) :
    ∃ piece, pieces[k]? = some piece ∧ call.Moves direction register piece ∧
      Post ((bytes.drop ((calls.take k).map BusCall.length).sum).take piece.length) call := by
  induction h generalizing k with
  | nil => cases hget
  | @cons piece pieces bytes first calls outcome hmoves hpost _ _ ih =>
    rcases k with _ | k
    · rw [List.getElem?_cons_zero, Option.some_inj] at hget
      subst hget
      exact ⟨piece, rfl, hmoves, hpost⟩
    · rw [List.getElem?_cons_succ] at hget
      obtain ⟨later, hlater, hmoves', hpost'⟩ := ih hget
      refine ⟨later, hlater, hmoves', ?_⟩
      rw [List.drop_drop, ← hmoves.length_eq] at hpost'
      rwa [List.take_succ_cons, List.map_cons, List.sum_cons]
  | @last piece _ _ _ hmoves hpost =>
    rcases k with _ | k
    · rw [List.getElem?_cons_zero, Option.some_inj] at hget
      subst hget
      exact ⟨piece, rfl, hmoves, hpost⟩
    · cases hget

theorem length_le (h : ChunkRun direction register Post pieces bytes calls outcome) :
    calls.length ≤ pieces.length := by
  induction h with
  | nil => exact Nat.le_refl _
  | cons _ _ _ _ ih => exact Nat.succ_le_succ ih
  | last => exact Nat.succ_le_succ (Nat.zero_le _)

/-- A run succeeds iff all of its calls do. -/
theorem ok_iff (h : ChunkRun direction register Post pieces bytes calls outcome) :
    outcome = .ok () ↔ ∀ call ∈ calls, call.outcome = .ok () := by
  induction h with
  | nil => exact ⟨fun _ _ hmem => absurd hmem List.not_mem_nil, fun _ => rfl⟩
  | cons _ _ hok _ ih =>
    rw [ih, List.forall_mem_cons]
    exact ⟨fun h => ⟨hok, h⟩, fun h => h.2⟩
  | @last _ _ _ call _ _ hne =>
    rw [List.forall_mem_singleton]
    constructor
    · exact fun houtcome => absurd (Outcome.mapError_eq_ok.mp houtcome) hne
    · exact fun hok => absurd hok hne

/-- A run that succeeds has called for every piece. -/
theorem length_eq (h : ChunkRun direction register Post pieces bytes calls (.ok ())) :
    calls.length = pieces.length := by
  generalize hok : (Outcome.ok () : Outcome (AccessError ε) Unit) = outcome at h
  induction h with
  | nil => rfl
  | cons _ _ _ _ ih => rw [List.length_cons, List.length_cons, ih hok]
  | last _ _ hne => exact absurd (Outcome.mapError_eq_ok.mp hok.symm) hne

/-- A call that does not succeed is the last one, and the run reports it at its offset. -/
theorem eq_last (h : ChunkRun direction register Post pieces bytes calls outcome) {k : Nat}
    {call : BusCall ε} (hget : calls[k]? = some call) (hne : call.outcome ≠ .ok ()) :
    calls.length = k + 1 ∧ ∃ piece, pieces[k]? = some piece ∧
      outcome = call.outcome.mapError (.bus direction piece.offset) := by
  induction h generalizing k with
  | nil => cases hget
  | @cons piece pieces bytes first calls outcome _ _ hok _ ih =>
    rcases k with _ | k
    · rw [List.getElem?_cons_zero, Option.some_inj] at hget
      exact absurd (hget ▸ hok) hne
    · rw [List.getElem?_cons_succ] at hget
      obtain ⟨hlength, piece, hpiece, houtcome⟩ := ih hget
      rw [List.length_cons, hlength, List.getElem?_cons_succ]
      exact ⟨rfl, piece, hpiece, houtcome⟩
  | @last piece pieces bytes only =>
    rcases k with _ | k
    · rw [List.getElem?_cons_zero, Option.some_inj] at hget
      subst hget
      exact ⟨rfl, piece, rfl, rfl⟩
    · rw [List.getElem?_cons_succ] at hget
      cases hget

end ChunkRun

end SensorLink

/-
The chunk calls of an access, by number.

Call `k` of an access in chunks of `size` bytes is `k * size` bytes above its register, and
moves `size` bytes or what is left.  The calls are made in order, once each, until one of
them fails.  From the number of that call follows what has reached the registers or the
buffer.

* `RegisterBus.InChunks` — the calls by number, and how the access ends;
* `ChunkRun.inChunks` — every run over the chunks of an access is so;
* `InChunks.sum_take`, `InChunks.flatMap_take` — what the first calls have moved;
* `RegisterBus.SparesBuffer` — a chunk that cannot be read leaves its buffer alone;
* `chunk_protocol` — all reads and writes over a bus that serves registers.
-/
import SensorLink.Proofs.Bench.Serving
import SensorLink.Proofs.Register.ChunkRun

namespace SensorLink

variable {ω ε : Type}

/-- The calls of an access to `total` bytes in chunks of `size` bytes, and its ending. -/
structure RegisterBus.InChunks (direction : Direction) (register size total : Nat)
    (outcome : Outcome (AccessError ε) Unit) (calls : List (BusCall ε)) : Prop where
  /-- Call `k` moves chunk `k`, which is not empty. -/
  moves : ∀ k call, calls[k]? = some call →
    call.Moves direction register ⟨k * size, min size (total - k * size)⟩ ∧ k * size < total
  length_le : calls.length ≤ (total + size - 1) / size
  ok_iff : outcome = .ok () ↔ ∀ call ∈ calls, call.outcome = .ok ()
  /-- An access that succeeds has called for each of its chunks. -/
  length_eq : outcome = .ok () → calls.length = (total + size - 1) / size
  /-- A call that does not succeed is the last one, and the access reports it. -/
  eq_last : ∀ k call, calls[k]? = some call → call.outcome ≠ .ok () →
    calls.length = k + 1 ∧ outcome = call.outcome.mapError (.bus direction (k * size))

variable {direction : Direction} {register size total : Nat} {calls : List (BusCall ε)}
  {outcome : Outcome (AccessError ε) Unit}

theorem ChunkRun.inChunks {Post : Bytes → BusCall ε → Prop} {bytes : Bytes}
    (h : ChunkRun direction register Post (Span.split size total) bytes calls outcome)
    (hsize : 0 < size) : RegisterBus.InChunks direction register size total outcome calls := by
  have hcount : (Span.split size total).length = (total + size - 1) / size := by
    rw [Span.split, List.length_map, List.length_range]
  refine ⟨?_, hcount ▸ h.length_le, h.ok_iff, ?_, ?_⟩
  · intro k call hget
    obtain ⟨piece, hpiece, hmoves, _⟩ := h.of_getElem? hget
    obtain ⟨rfl, hlt⟩ := Span.getElem?_split hsize hpiece
    exact ⟨hmoves, hlt⟩
  · rintro rfl
    exact h.length_eq.trans hcount
  · intro k call hget hne
    obtain ⟨hlength, piece, hpiece, houtcome⟩ := h.eq_last hget hne
    obtain ⟨rfl, _⟩ := Span.getElem?_split hsize hpiece
    exact ⟨hlength, houtcome⟩

/-! ### What the first calls have moved -/

namespace RegisterBus.InChunks

/-- The first `k` calls have moved `k * size` bytes, or all that there were. -/
theorem sum_take (h : InChunks direction register size total outcome calls) {k : Nat}
    (hk : k ≤ calls.length) :
    ((calls.take k).map BusCall.length).sum = min total (k * size) := by
  induction k with
  | zero => rw [Nat.zero_mul, Nat.min_zero, List.take_zero, List.map_nil, List.sum_nil]
  | succ k ih =>
    have hget : calls[k]? = some calls[k] := List.getElem?_eq_getElem hk
    obtain ⟨hmoves, hlt⟩ := h.moves k _ hget
    rw [List.take_succ_eq_append_getElem hk, List.map_append, List.sum_append,
      ih (Nat.le_of_lt hk), List.map_singleton, List.sum_singleton, hmoves.length_eq, Nat.succ_mul]
    simp only
    omega

/-- The calls of an access that succeeds have moved all there was. -/
theorem sum_of_ok (h : InChunks direction register size total outcome calls) (hsize : 0 < size)
    (hok : outcome = .ok ()) : (calls.map BusCall.length).sum = total := by
  have hsum := h.sum_take (Nat.le_refl calls.length)
  rw [List.take_length, h.length_eq hok] at hsum
  -- The number of chunks is rounded up.
  have hcount := Nat.div_add_mod (total + size - 1) size
  have hrest := Nat.mod_lt (total + size - 1) hsize
  rw [Nat.mul_comm] at hcount
  omega

/-- The bytes of the first `k` calls are the registers, if those of each call are. -/
theorem flatMap_take (h : InChunks direction register size total outcome calls)
    (contents : Contents) {k : Nat} (hk : k ≤ calls.length)
    (hbytes : ∀ i call, i < k → calls[i]? = some call →
      call.bytes = contents.read call.register.toNat call.length) :
    (calls.take k).flatMap BusCall.bytes = contents.read register (min total (k * size)) := by
  induction k with
  | zero => rw [Nat.zero_mul, Nat.min_zero, List.take_zero, List.flatMap_nil, Contents.read_zero]
  | succ k ih =>
    have hget : calls[k]? = some calls[k] := List.getElem?_eq_getElem hk
    obtain ⟨hmoves, hlt⟩ := h.moves k _ hget
    have hearlier := ih (Nat.le_of_lt hk) fun i call hi => hbytes i call (Nat.lt_succ_of_lt hi)
    -- Chunk `k` goes on where the chunks before it stopped.
    have hsum : min total ((k + 1) * size)
        = min total (k * size) + min size (total - k * size) := by
      rw [Nat.succ_mul]
      omega
    rw [List.take_succ_eq_append_getElem hk, List.flatMap_append, hearlier, List.flatMap_singleton,
      hbytes k _ (Nat.lt_succ_self k) hget, hmoves.register_eq, hmoves.length_eq, hsum,
      Contents.read_add, Nat.min_eq_right (Nat.le_of_lt hlt)]

/-- Where the bytes of an access come from if call `k` did not succeed: from the calls before
it, from itself, and, past its chunk, from before the access. -/
theorem eq_append (h : InChunks direction register size total outcome calls) (bytes : Bytes)
    {k : Nat} {call : BusCall ε} (hget : calls[k]? = some call) (hne : call.outcome ≠ .ok ()) :
    calls.flatMap BusCall.bytes ++ bytes.drop (calls.map BusCall.length).sum
        = (calls.take k).flatMap BusCall.bytes
          ++ (call.bytes ++ bytes.drop (min total ((k + 1) * size))) ∧
      ((calls.take k).flatMap BusCall.bytes).length = k * size := by
  obtain ⟨hlength, _⟩ := h.eq_last k call hget hne
  obtain ⟨hlt, rfl⟩ := List.getElem?_eq_some_iff.mp hget
  have hsplit : calls.take k ++ [calls[k]] = calls := by
    rw [← List.take_succ_eq_append_getElem hlt, ← hlength, List.take_length]
  have hsum := h.sum_take (Nat.le_of_eq hlength.symm)
  rw [← hlength, List.take_length, hlength] at hsum
  constructor
  · rw [hsum, ← List.append_assoc, ← List.flatMap_singleton BusCall.bytes calls[k],
      ← List.flatMap_append, hsplit]
  · rw [List.length_flatMap]
    exact (h.sum_take (Nat.le_of_lt hlt)).trans
      (Nat.min_eq_right (Nat.le_of_lt (h.moves k _ hget).2))

end RegisterBus.InChunks

/-! ### Accesses by number -/

namespace RegisterBus

variable {bus : RegisterBus ω ε} {contents : ω → Contents} {Failed : ω → Prop}

/-- The access and its calls, seen without the recorder. -/
theorem Maintains.access_inChunks {w : ω} {limit : Nat} {Inv : ω → Prop}
    {Post : Bytes → BusCall ε → Prop}
    (h : bus.Maintains direction (bus.chunkSize w) limit Inv Post) (register : UInt16)
    (bytes : Bytes) (hw : Inv w) (hchunk : 0 < bus.chunkSize w)
    (hreach : register.toNat + bytes.length ≤ bus.addressLimit w)
    (hlimit : register.toNat + bytes.length ≤ limit)
    (hspace : register.toNat + bytes.length ≤ registerSpace) :
    ∃ outcome filled v,
      bus.access direction register bytes w = ⟨outcome, (filled, v)⟩ ∧ Inv v ∧
        InChunks direction register.toNat (bus.chunkSize w) bytes.length outcome
          (bus.calls direction register bytes w) ∧
        ChunkRun direction register.toNat Post (Span.split (bus.chunkSize w) bytes.length) bytes
          (bus.calls direction register bytes w) outcome ∧
        filled = (bus.calls direction register bytes w).flatMap BusCall.bytes
          ++ bytes.drop ((bus.calls direction register bytes w).map BusCall.length).sum := by
  obtain ⟨outcome, filled, v, calls, hrun, hchunks, hv, hfilled⟩ :=
    h.access register bytes [] hw hchunk hreach hlimit hspace
  have hcalls : bus.calls direction register bytes w = calls := by
    rw [RegisterBus.calls, hrun, List.nil_append, Event.busCalls_map_bus]
  have hplain := bus.access_traced direction register bytes w []
  obtain ⟨⟨outcome', filled', v'⟩, hrun'⟩ :
    ∃ run, bus.access direction register bytes w = run := ⟨_, rfl⟩
  rw [hrun, hrun'] at hplain
  obtain ⟨rfl, rfl, rfl⟩ := hplain
  subst hcalls
  exact ⟨_, _, _, hrun', hv, hchunks.inChunks hchunk, hchunks, hfilled⟩

/-- A chunk that cannot be read leaves its buffer as it was. -/
def SparesBuffer (bus : RegisterBus ω ε) : Prop :=
  ∀ register buffer w, (bus.readChunk register buffer w).outcome ≠ .ok () →
    (bus.readChunk register buffer w).world.1 = buffer

/-- A failing read leaves the buffer alone from the failing chunk on. -/
theorem SparesBuffer.drop_filled (h : bus.SparesBuffer) (register : UInt16) (buffer : Bytes) (w : ω)
    (hchunk : 0 < bus.chunkSize w)
    (hlimit : register.toNat + buffer.length ≤ bus.addressLimit w)
    (hspace : register.toNat + buffer.length ≤ registerSpace) {k : Nat} {call : BusCall ε}
    (hget : (bus.calls .read register buffer w)[k]? = some call) (hne : call.outcome ≠ .ok ()) :
    (bus.read register buffer w).world.1.drop (k * bus.chunkSize w)
      = buffer.drop (k * bus.chunkSize w) := by
  have hmaintains : bus.Maintains .read (bus.chunkSize w) registerSpace (fun _ => True)
      fun chunk call => call.outcome ≠ .ok () → call.bytes = chunk :=
    fun register buffer w _ _ _ _ => ⟨_, _, _, rfl, trivial, h register buffer w⟩
  obtain ⟨outcome, filled, v, hrun, _, hin, hchunks, hfilled⟩ :=
    hmaintains.access_inChunks register buffer trivial hchunk hlimit hspace hspace
  have hrun : bus.read register buffer w = ⟨outcome, (filled, v)⟩ := hrun
  obtain ⟨happend, hlength⟩ := hin.eq_append buffer hget hne
  -- The last call was handed what the buffer holds from its chunk on, and gave it back.
  obtain ⟨piece, hpiece, _, hpost⟩ := hchunks.of_getElem? hget
  obtain ⟨rfl, hlt⟩ := Span.getElem?_split hchunk hpiece
  have hspared := hpost hne
  have hle := (List.getElem?_eq_some_iff.mp hget).1
  rw [hin.sum_take (Nat.le_of_lt hle), Nat.min_eq_right (Nat.le_of_lt hlt)] at hspared
  rw [hrun, hfilled, happend, ← hlength, List.drop_left, hlength, hspared]
  have hnext : min buffer.length ((k + 1) * bus.chunkSize w)
      = k * bus.chunkSize w + min (bus.chunkSize w) (buffer.length - k * bus.chunkSize w) := by
    rw [Nat.succ_mul]
    omega
  rw [hnext, ← List.drop_drop, List.take_append_drop]

end RegisterBus

/-- A four-wire link copies to the buffer only what an exchange that succeeded has brought. -/
theorem FourWireLink.sparesBuffer_registerBus {σ ε : Type} (controller : FourWireBus σ ε) :
    (registerBus controller).SparesBuffer := by
  intro register buffer link hne
  simp only [registerBus, readChunk] at hne ⊢
  split
  · rfl
  split
  · rfl
  split
  · rfl
  rename_i hsize hbit hfits
  rw [if_neg hsize, if_neg hbit, if_neg hfits] at hne
  obtain ⟨⟨outcome, answer, v⟩, hrun⟩ : ∃ run, link.exchange controller
    (header register ++ List.replicate buffer.length 0) = run := ⟨_, rfl⟩
  rw [hrun] at hne ⊢
  cases outcome with
  | ok => exact absurd rfl hne
  | error => rfl
  | trap => rfl

/-! ### Accesses over a bus that serves registers -/

/-- A write reports the call that failed, and has put the chunks before it into the
registers. -/
structure RegisterBus.WritesInChunks (bus : RegisterBus ω ε) (contents : ω → Contents)
    (register : UInt16) (data : Bytes) (w : ω) : Prop where
  inChunks : InChunks .write register.toNat (bus.chunkSize w) data.length
    (bus.write register data w).outcome (bus.calls .write register data w)
  payload : (bus.calls .write register data w).flatMap BusCall.bytes <+: data
  of_ok : (bus.write register data w).outcome = .ok () →
    (bus.calls .write register data w).flatMap BusCall.bytes = data ∧
      contents (bus.write register data w).world = (contents w).patch register.toNat data
  of_failed : ∀ k call, (bus.calls .write register data w)[k]? = some call →
    call.outcome ≠ .ok () →
    (∃ e, call.outcome = .error e ∧
      (bus.write register data w).outcome = .error (.bus .write (k * bus.chunkSize w) e)) ∧
    contents (bus.write register data w).world
      = (contents w).patch register.toNat (data.take (k * bus.chunkSize w))

/-- A read reports the call that failed, has filled the buffer from the chunks before it,
and leaves alone what follows the chunk of that call. -/
structure RegisterBus.ReadsInChunks (bus : RegisterBus ω ε) (contents : ω → Contents)
    (register : UInt16) (buffer : Bytes) (w : ω) : Prop where
  inChunks : InChunks .read register.toNat (bus.chunkSize w) buffer.length
    (bus.read register buffer w).outcome (bus.calls .read register buffer w)
  contents_eq : contents (bus.read register buffer w).world.2 = contents w
  of_ok : (bus.read register buffer w).outcome = .ok () →
    (bus.read register buffer w).world.1 = (contents w).read register.toNat buffer.length
  of_failed : ∀ k call, (bus.calls .read register buffer w)[k]? = some call →
    call.outcome ≠ .ok () →
    (∃ e, call.outcome = .error e ∧
      (bus.read register buffer w).outcome = .error (.bus .read (k * bus.chunkSize w) e)) ∧
    (bus.read register buffer w).world.1.take (k * bus.chunkSize w)
      = (contents w).read register.toNat (k * bus.chunkSize w) ∧
    (bus.read register buffer w).world.1.drop (min buffer.length ((k + 1) * bus.chunkSize w))
      = buffer.drop (min buffer.length ((k + 1) * bus.chunkSize w))

namespace RegisterBus.Serves

variable {bus : RegisterBus ω ε} {contents : ω → Contents} {Failed : ω → Prop}

theorem maintains_read (h : bus.Serves contents Failed) (w : ω) :
    bus.Maintains .read (bus.chunkSize w) (bus.addressLimit w)
      (fun v => bus.Keeps Failed w v ∧ contents v = contents w)
      fun _ call => call.outcome = .ok () ∧
          call.bytes = (contents w).read call.register.toNat call.length ∨
        ∃ e, call.outcome = .error e := by
  rintro register buffer v hpos hsize hstop ⟨hkeeps, hsame⟩
  obtain ⟨outcome, filled, u, hrun, hkeeps', hsame', hends⟩ := h.readChunk register buffer v
    ⟨hpos, hkeeps.chunkSize ▸ hsize, hkeeps.addressLimit ▸ hstop⟩
  refine ⟨outcome, filled, u, hrun, ⟨hkeeps.trans hkeeps', hsame'.trans hsame⟩, ?_⟩
  rcases hends with ⟨rfl, rfl⟩ | ⟨e, rfl, _⟩
  · exact .inl ⟨rfl, by rw [BusCall.length, Contents.length_read, hsame]⟩
  · exact .inr ⟨e, rfl⟩

theorem maintains_write (h : bus.Serves contents Failed) (w : ω) :
    bus.Maintains .write (bus.chunkSize w) (bus.addressLimit w) (bus.Keeps Failed w)
      fun _ call => call.outcome = .ok () ∨ ∃ e, call.outcome = .error e := by
  intro register data v hpos hsize hstop hkeeps
  obtain ⟨outcome, u, hrun, hkeeps', hends⟩ := h.writeChunk register data v
    ⟨hpos, hkeeps.chunkSize ▸ hsize, hkeeps.addressLimit ▸ hstop⟩
  refine ⟨outcome, data, u, by rw [chunk, hrun]; rfl, hkeeps.trans hkeeps', ?_⟩
  rcases hends with ⟨rfl, _⟩ | ⟨e, rfl, _⟩
  · exact .inl rfl
  · exact .inr ⟨e, rfl⟩

theorem writesInChunks (h : bus.Serves contents Failed) (w : ω) (hchunk : 0 < bus.chunkSize w)
    (hspace : bus.addressLimit w ≤ registerSpace) (register : UInt16) (data : Bytes)
    (hlimit : register.toNat + data.length ≤ bus.addressLimit w) :
    bus.WritesInChunks contents register data w := by
  obtain ⟨outcome, filled, v, hrun, _, hin, hchunks, hfilled⟩ :=
    (h.maintains_write w).access_inChunks register data (.refl ..) hchunk hlimit hlimit
      (Nat.le_trans hlimit hspace)
  obtain rfl : (bus.write register data w).outcome = outcome := congrArg Run.outcome hrun
  obtain rfl : data = filled := congrArg (fun run => run.world.1) hrun
  -- How far the registers were written is known from the calls, and so is the offset.
  obtain ⟨outcome, v, calls, reached, htraced, haccess, _, _, hcontents⟩ :=
    h.write_traced register data w [] hchunk hspace hlimit
  obtain ⟨houtcome, hworld⟩ := bus.write_traced register data w []
  rw [htraced] at houtcome hworld
  obtain rfl : v = (bus.write register data w).world := hworld
  obtain rfl : outcome = (bus.write register data w).outcome := houtcome
  refine ⟨hin, ⟨_, hfilled.symm⟩, ?_, ?_⟩
  · intro hok
    rw [hin.sum_of_ok hchunk hok, List.drop_length, List.append_nil] at hfilled
    rw [hok] at haccess
    cases haccess with
    | finished =>
      rw [List.take_length] at hcontents
      exact ⟨hfilled.symm, hcontents⟩
  · intro k call hget hne
    obtain ⟨_, _, _, hpost⟩ := hchunks.of_getElem? hget
    obtain ⟨e, he⟩ := hpost.resolve_left hne
    obtain ⟨_, hlast⟩ := hin.eq_last k call hget hne
    rw [he] at hlast
    refine ⟨⟨e, he, hlast⟩, ?_⟩
    rw [hlast] at haccess
    cases haccess with
    | failed => exact hcontents

theorem readsInChunks (h : bus.Serves contents Failed) (w : ω) (hchunk : 0 < bus.chunkSize w)
    (hspace : bus.addressLimit w ≤ registerSpace) (register : UInt16) (buffer : Bytes)
    (hlimit : register.toNat + buffer.length ≤ bus.addressLimit w) :
    bus.ReadsInChunks contents register buffer w := by
  obtain ⟨outcome, filled, v, hrun, ⟨_, hsame⟩, hin, hchunks, hfilled⟩ :=
    (h.maintains_read w).access_inChunks register buffer ⟨.refl .., rfl⟩ hchunk hlimit hlimit
      (Nat.le_trans hlimit hspace)
  have hrun : bus.read register buffer w = ⟨outcome, (filled, v)⟩ := hrun
  -- The calls that succeeded have brought registers.
  have hbytes : ∀ (i : Nat) (call : BusCall ε),
      (bus.calls .read register buffer w)[i]? = some call → call.outcome = .ok () →
        call.bytes = (contents w).read call.register.toNat call.length := by
    intro i call hget hok
    obtain ⟨_, _, _, hpost⟩ := hchunks.of_getElem? hget
    rcases hpost with ⟨_, hbytes⟩ | ⟨e, he⟩
    · exact hbytes
    · exact absurd (he.symm.trans hok) Outcome.error_ne_ok
  have hall := hin.sum_take (Nat.le_refl _)
  rw [List.take_length] at hall
  constructor
  case inChunks => rwa [hrun]
  case contents_eq => rwa [hrun]
  case of_ok =>
    rw [hrun]
    intro hok
    have hsum := hin.sum_of_ok hchunk hok
    have hflat := hin.flatMap_take (contents w) (Nat.le_refl _)
      fun i call _ hget => hbytes i call hget (hin.ok_iff.mp hok call (List.mem_of_getElem? hget))
    rw [List.take_length, ← hall, hsum] at hflat
    rwa [hfilled, hsum, List.drop_length, List.append_nil]
  case of_failed =>
    rw [hrun]
    intro k call hget hne
    obtain ⟨hlength, hlast⟩ := hin.eq_last k call hget hne
    obtain ⟨_, _, _, hpost⟩ := hchunks.of_getElem? hget
    obtain ⟨e, he⟩ := hpost.resolve_left fun h => hne h.1
    have hflat := hin.flatMap_take (contents w) (k := k) (by omega) <| by
      intro i call hi hget
      refine hbytes i call hget ?_
      -- An earlier call that did not succeed would have been the last one.
      by_contra hne
      have := (hin.eq_last i call hget hne).1
      omega
    rw [Nat.min_eq_right (Nat.le_of_lt (hin.moves k call hget).2)] at hflat
    obtain ⟨happend, htake⟩ := hin.eq_append buffer hget hne
    refine ⟨⟨e, he, by rw [hlast, he]; rfl⟩, ?_, ?_⟩
    · rw [hfilled, happend, List.take_left' htake, hflat]
    · rw [hlength] at hall
      rw [hfilled, hall]
      exact List.drop_left' ((List.length_flatMap ..).trans hall)

/-- The calls of an access in chunks of `c` bytes are at `register + k * c`, in order, and the
first one that fails is the last.  It is reported at `k * c`.  Up to there a write has
reached the registers, and a read has brought them; past its chunk a read leaves the
buffer alone, and over four wires the chunk itself, too. -/
theorem chunk_protocol (h : bus.Serves contents Failed) (w : ω) (hchunk : 0 < bus.chunkSize w)
    (hspace : bus.addressLimit w ≤ registerSpace) (register : UInt16) :
    (∀ data : Bytes, register.toNat + data.length ≤ bus.addressLimit w →
      bus.WritesInChunks contents register data w) ∧
    (∀ buffer : Bytes, register.toNat + buffer.length ≤ bus.addressLimit w →
      bus.ReadsInChunks contents register buffer w) ∧
    ∀ (σ δ : Type) (controller : FourWireBus σ δ) (link : FourWireLink σ) (buffer : Bytes),
      register.toNat + buffer.length ≤ fourWireSpace →
      ∀ k call,
        ((FourWireLink.registerBus controller).calls .read register buffer link)[k]? = some call →
        call.outcome ≠ .ok () →
        ((FourWireLink.registerBus controller).read register buffer link).world.1.drop
            (k * fourWireChunkSize)
          = buffer.drop (k * fourWireChunkSize) := by
  refine ⟨h.writesInChunks w hchunk hspace register, h.readsInChunks w hchunk hspace register, ?_⟩
  intro σ δ controller link buffer hlimit k call hget hne
  have hspace : fourWireSpace ≤ registerSpace := by decide
  exact (FourWireLink.sparesBuffer_registerBus controller).drop_filled register buffer link
    (show 0 < fourWireChunkSize by decide) hlimit (Nat.le_trans hlimit hspace) hget hne

open Bench in
/-- Eight bytes in chunks of three, of which the second fails. -/
theorem chunk_protocol_recorder :
    let recorder : Recorder := { limit := 3, registers := .zero, failOn := some 1 }
    let data : Bytes := [1, 2, 3, 4, 5, 6, 7, 8]
    let write := Recorder.registerBus.write 0x10 data recorder
    let read := Recorder.registerBus.read 0x10 data recorder
    write.outcome = .error (.bus .write 3 ()) ∧
      write.world.registers.contents
        = recorder.registers.contents.patch (0x10 : UInt16).toNat (data.take 3) ∧
      read.outcome = .error (.bus .read 3 ()) ∧
      read.world.1.take 3 = recorder.registers.contents.read (0x10 : UInt16).toNat 3 ∧
      read.world.1.drop 6 = data.drop 6 := by
  intro recorder data write read
  obtain ⟨hwrite, hread, _⟩ := chunk_protocol Recorder.serves_registerBus recorder
    (show 0 < recorder.limit by decide) (Nat.le_refl _) 0x10
  obtain ⟨⟨⟨⟩, _, hwrite⟩, hwritten⟩ := (hwrite data (by decide)).of_failed 1
    ⟨.write, 0x13, [4, 5, 6], .error ()⟩ (by decide +kernel) Outcome.error_ne_ok
  obtain ⟨⟨⟨⟩, _, hread⟩, htake, hdrop⟩ := (hread data (by decide)).of_failed 1
    ⟨.read, 0x13, [4, 5, 6], .error ()⟩ (by decide +kernel) Outcome.error_ne_ok
  exact ⟨hwrite, hwritten, hread, htake, hdrop⟩

end RegisterBus.Serves

end SensorLink

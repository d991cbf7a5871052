/-
Accesses over buses that serve an array of registers.

A bus serves registers if every chunk call within its reach does what it would do
to an array of bytes, or else fails and changes no byte.  From this contract about
single chunks follows what an access of any length does, and which calls it makes.

* `RegisterBus.Serves` — the contract of the chunk calls;
* `RegisterBus.rationed` — an array of registers that serves until its calls run out;
* `Advances` — successful calls that go on where the one before them stopped;
* `Access` — how an access ends: it finishes, or its last call failed;
* `Serves.write_traced`, `Serves.read_traced` — all accesses, with their calls;
* `Serves.write_ends`, `Serves.read_ends` — the same without the calls.

Design notes.  Failures are noted by a predicate on worlds, which a failing call
makes true and no call makes false.  With `True` the bus may fail at any time,
with `False` it never fails, and a bench can say which of its own faults it means.
-/
import SensorLink.Proofs.Contents
import SensorLink.Proofs.Register.Tiling
import SensorLink.Proofs.Trace

namespace SensorLink

variable {ω ε : Type} {bus : RegisterBus ω ε} {contents : ω → Contents} {Failed : ω → Prop}

/-! ### The contract of a chunk call -/

/-- The chunks that a bus carries: not empty, not too long, and below the limit. -/
structure RegisterBus.Reaches (bus : RegisterBus ω ε) (register : UInt16) (length : Nat) (w : ω) :
    Prop where
  pos : 0 < length
  le_chunkSize : length ≤ bus.chunkSize w
  le_addressLimit : register.toNat + length ≤ bus.addressLimit w

theorem RegisterBus.Reaches.register_lt {register : UInt16} {length : Nat} {w : ω}
    (h : bus.Reaches register length w) : register.toNat < bus.addressLimit w :=
  Nat.lt_of_lt_of_le (Nat.lt_add_of_pos_right h.pos) h.le_addressLimit

/-- What every call keeps: the reach of the bus, and that a call has failed. -/
structure RegisterBus.Keeps (bus : RegisterBus ω ε) (Failed : ω → Prop) (w v : ω) : Prop where
  chunkSize : bus.chunkSize v = bus.chunkSize w
  addressLimit : bus.addressLimit v = bus.addressLimit w
  failed : Failed w → Failed v

theorem RegisterBus.Keeps.refl (bus : RegisterBus ω ε) (Failed : ω → Prop) (w : ω) :
    bus.Keeps Failed w w :=
  ⟨rfl, rfl, id⟩

theorem RegisterBus.Keeps.trans {w v u : ω} (h : bus.Keeps Failed w v)
    (h' : bus.Keeps Failed v u) : bus.Keeps Failed w u :=
  ⟨h'.chunkSize.trans h.chunkSize, h'.addressLimit.trans h.addressLimit, h'.failed ∘ h.failed⟩

/-- The bus serves registers that hold `contents w` in the world `w`. -/
structure RegisterBus.Serves (bus : RegisterBus ω ε) (contents : ω → Contents)
    (Failed : ω → Prop) : Prop where
  readChunk : ∀ register buffer w, bus.Reaches register buffer.length w →
    ∃ outcome filled v, bus.readChunk register buffer w = ⟨outcome, (filled, v)⟩ ∧
      bus.Keeps Failed w v ∧ contents v = contents w ∧
      (outcome = .ok () ∧ filled = (contents w).read register.toNat buffer.length ∨
        ∃ e, outcome = .error e ∧ Failed v)
  writeChunk : ∀ register data w, bus.Reaches register data.length w →
    ∃ outcome v, bus.writeChunk register data w = ⟨outcome, v⟩ ∧ bus.Keeps Failed w v ∧
      (outcome = .ok () ∧ contents v = (contents w).patch register.toNat data ∨
        ∃ e, outcome = .error e ∧ contents v = contents w ∧ Failed v)

/-- Registers that are reached in chunks of `size` bytes, by calls that succeed as long as
there are any left. -/
def RegisterBus.rationed (size : Nat) : RegisterBus (Contents × Nat) Unit where
  chunkSize _ := size
  addressLimit _ := registerSpace
  readChunk
    | _, buffer, (registers, 0) => ⟨.error (), (buffer, (registers, 0))⟩
    | register, buffer, (registers, left + 1) =>
      ⟨.ok (), (registers.read register.toNat buffer.length, (registers, left))⟩
  writeChunk
    | _, _, (registers, 0) => ⟨.error (), (registers, 0)⟩
    | register, data, (registers, left + 1) =>
      ⟨.ok (), (registers.patch register.toNat data, left)⟩
  length_readChunk
    | _, _, (_, 0) => rfl
    | _, _, (registers, _ + 1) => registers.length_read ..

theorem RegisterBus.serves_rationed (size : Nat) :
    (rationed size).Serves Prod.fst fun w => w.2 = 0 where
  readChunk
    | _, _, (_, 0), _ => ⟨_, _, _, rfl, .refl .., rfl, .inr ⟨(), rfl, rfl⟩⟩
    | _, _, (_, _ + 1), _ => ⟨_, _, _, rfl, ⟨rfl, rfl, nofun⟩, rfl, .inl ⟨rfl, rfl⟩⟩
  writeChunk
    | _, _, (_, 0), _ => ⟨_, _, rfl, .refl .., .inr ⟨(), rfl, rfl, rfl⟩⟩
    | _, _, (_, _ + 1), _ => ⟨_, _, rfl, ⟨rfl, rfl, nofun⟩, .inl ⟨rfl, rfl⟩⟩

/-! ### The calls of an access -/

/-- Successful calls in one direction that move the bytes from one address up to
another, each of them going on where the one before it stopped. -/
inductive Advances (direction : Direction) : Nat → List (BusCall ε) → Nat → Prop
  | nil (address : Nat) : Advances direction address [] address
  | cons {address stop : Nat} {call : BusCall ε} {calls : List (BusCall ε)} :
      call.direction = direction → call.register.toNat = address → call.outcome = .ok () →
      Advances direction (address + call.length) calls stop →
      Advances direction address (call :: calls) stop

namespace Advances

variable {direction : Direction} {start stop : Nat} {calls more : List (BusCall ε)}

theorem append {mid : Nat} (h : Advances direction start calls mid)
    (h' : Advances direction mid more stop) : Advances direction start (calls ++ more) stop := by
  induction h with
  | nil => exact h'
  | cons hdirection hregister houtcome _ ih => exact .cons hdirection hregister houtcome (ih h')

/-- The calls move as many bytes as there are between the two addresses. -/
theorem sum_lengths (h : Advances direction start calls stop) :
    start + (calls.map BusCall.length).sum = stop := by
  induction h with
  | nil => rfl
  | cons _ _ _ _ ih =>
    rw [List.map_cons, List.sum_cons, ← Nat.add_assoc]
    exact ih

theorem outcome_of_mem (h : Advances direction start calls stop) {call : BusCall ε}
    (hmem : call ∈ calls) : call.outcome = .ok () := by
  induction h with
  | nil => exact absurd hmem List.not_mem_nil
  | cons _ _ houtcome _ ih =>
    rcases List.mem_cons.mp hmem with rfl | hmem
    · exact houtcome
    · exact ih hmem

end Advances

/-- How an access to the bytes from `start` up to `stop` above a register ends, by
which calls, and up to where it came. -/
inductive Access (direction : Direction) (base start stop : Nat) :
    Outcome (AccessError ε) Unit → List (BusCall ε) → Nat → Prop
  | finished {calls : List (BusCall ε)} :
      Advances direction (base + start) calls (base + stop) →
      Access direction base start stop (.ok ()) calls stop
  | failed {calls : List (BusCall ε)} {call : BusCall ε} {e : ε} {reached : Nat} :
      Advances direction (base + start) calls (base + reached) →
      call.direction = direction → call.register.toNat = base + reached →
      call.outcome = .error e → start ≤ reached → reached < stop →
      Access direction base start stop (.error (.bus direction reached e)) (calls ++ [call]) reached

namespace Access

variable {direction : Direction} {base start stop reached : Nat}
  {outcome : Outcome (AccessError ε) Unit} {calls : List (BusCall ε)}

theorem le_reached (h : Access direction base start stop outcome calls reached)
    (hle : start ≤ stop) : start ≤ reached := by
  cases h with
  | finished => exact hle
  | failed _ _ _ _ hstart => exact hstart

/-- An access goes on after a call that succeeded. -/
theorem cons {call : BusCall ε} {mid : Nat} (hdirection : call.direction = direction)
    (hregister : call.register.toNat = base + start) (houtcome : call.outcome = .ok ())
    (hmid : start + call.length = mid) (h : Access direction base mid stop outcome calls reached) :
    Access direction base start stop outcome (call :: calls) reached := by
  subst hmid
  cases h with
  | finished hcalls =>
    rw [← Nat.add_assoc] at hcalls
    exact .finished (.cons hdirection hregister houtcome hcalls)
  | failed hcalls hlast hreached hlastOutcome hstart hstop =>
    rw [← Nat.add_assoc] at hcalls
    exact .failed (.cons hdirection hregister houtcome hcalls) hlast hreached hlastOutcome
      (by omega) hstop

end Access

/-! ### Accesses of any length -/

namespace RegisterBus.Serves

/-- The register of a piece is its address, counted without wrapping. -/
theorem registerAt_piece (register : UInt16) (offset : Nat) {limit : Nat}
    (hlt : register.toNat + offset < limit) (hspace : limit ≤ registerSpace) :
    ∃ target, registerAt register offset = some target ∧
      target.toNat = register.toNat + offset := by
  refine ⟨_, registerAt_of_lt (by omega), ?_⟩
  rw [UInt16.toNat_ofNat']
  exact Nat.mod_eq_of_lt (Nat.lt_of_lt_of_le hlt hspace)

theorem writeSpans_traced (h : bus.Serves contents Failed) (register : UInt16)
    {offset stop size : Nat} {spans : List Span} (htiles : Span.Tiles size offset spans stop)
    (data : Bytes) (w : ω) (log : List (Event ε)) (hsize : bus.chunkSize w = size)
    (hlimit : register.toNat + stop ≤ bus.addressLimit w)
    (hspace : bus.addressLimit w ≤ registerSpace) (hdata : offset + data.length = stop) :
    ∃ outcome v calls reached,
      bus.traced.writeSpans register spans data (w, log)
          = ⟨outcome, (v, log ++ calls.map .bus)⟩ ∧
        Access .write register.toNat offset stop outcome calls reached ∧
        bus.Keeps Failed w v ∧ (outcome = .ok () ∨ Failed v) ∧
        contents v
          = (contents w).patch (register.toNat + offset) (data.take (reached - offset)) := by
  -- The induction is on the tiling: each chunk starts where the one before it stopped.
  induction htiles generalizing data w log with
  | nil offset =>
    refine ⟨.ok (), w, [], offset, ?_, .finished (.nil _), .refl .., .inl rfl, ?_⟩
    · simp only [RegisterBus.writeSpans, List.map_nil, List.append_nil]
    · rw [Nat.sub_self, List.take_zero, Contents.patch_nil]
  | @cons offset length stop spans _ hpos hle htail ih =>
    have hstop := htail.le
    have htake : (data.take length).length = length := by rw [List.length_take]; omega
    obtain ⟨target, htarget, haddress⟩ :=
      registerAt_piece register offset (by omega) hspace
    obtain ⟨outcome, v, hrun, hkeeps, hends⟩ := h.writeChunk target (data.take length) w
      ⟨by omega, by omega, by omega⟩
    -- A chunk that succeeds is followed by the others; one that fails is the last.
    rcases hends with ⟨rfl, hpatch⟩ | ⟨e, rfl, hsame, hfailed⟩
    · obtain ⟨outcome, u, calls, reached, hrest, haccess, hkeeps', hok, hcontents⟩ :=
        ih (data.drop length) v (log ++ [.bus ⟨.write, target, data.take length, .ok ()⟩])
          (hkeeps.chunkSize.trans hsize) (by rw [hkeeps.addressLimit]; exact hlimit)
          (by rw [hkeeps.addressLimit]; exact hspace) (by rw [List.length_drop]; omega)
      have hreached := haccess.le_reached hstop
      refine ⟨outcome, u, ⟨.write, target, data.take length, .ok ()⟩ :: calls, reached, ?_,
        haccess.cons rfl haddress rfl (by rw [BusCall.length, htake]), hkeeps.trans hkeeps', hok,
        ?_⟩
      · simp only [RegisterBus.writeSpans, htarget, traced, hrun] at hrest ⊢
        rw [hrest, List.map_cons, List.append_assoc, List.singleton_append]
      -- What the rest has written goes on where this chunk stopped.
      · have hsplit : data.take (reached - offset)
            = data.take length ++ (data.drop length).take (reached - (offset + length)) := by
          rw [← List.take_add]
          congr 1
          omega
        rw [hcontents, hpatch, hsplit, Contents.patch_append, htake, haddress, Nat.add_assoc]
    · refine ⟨.error (.bus .write offset e), v, [⟨.write, target, data.take length, .error e⟩],
        offset, ?_, .failed (.nil _) rfl haddress rfl (Nat.le_refl _) (by omega), hkeeps,
        .inr hfailed, ?_⟩
      · simp only [RegisterBus.writeSpans, htarget, traced, hrun, List.map_cons, List.map_nil]
      · rw [hsame, Nat.sub_self, List.take_zero, Contents.patch_nil]

theorem readSpans_traced (h : bus.Serves contents Failed) (register : UInt16)
    {offset stop size : Nat} {spans : List Span} (htiles : Span.Tiles size offset spans stop)
    (buffer : Bytes) (w : ω) (log : List (Event ε)) (hsize : bus.chunkSize w = size)
    (hlimit : register.toNat + stop ≤ bus.addressLimit w)
    (hspace : bus.addressLimit w ≤ registerSpace) (hbuffer : offset + buffer.length = stop) :
    ∃ outcome filled v calls reached,
      bus.traced.readSpans register spans buffer (w, log)
          = ⟨outcome, (filled, (v, log ++ calls.map .bus))⟩ ∧
        Access .read register.toNat offset stop outcome calls reached ∧
        bus.Keeps Failed w v ∧ (outcome = .ok () ∨ Failed v) ∧ contents v = contents w ∧
        (outcome = .ok () →
          filled = (contents w).read (register.toNat + offset) buffer.length) := by
  -- As for a write; the buffer is put together from the chunks.
  induction htiles generalizing buffer w log with
  | nil offset =>
    have hempty : buffer = [] := List.eq_nil_of_length_eq_zero (by omega)
    refine ⟨.ok (), buffer, w, [], offset, ?_, .finished (.nil _), .refl .., .inl rfl, rfl,
      fun _ => ?_⟩
    · simp only [RegisterBus.readSpans, List.map_nil, List.append_nil]
    · rw [hempty, List.length_nil, Contents.read_zero]
  | @cons offset length stop spans _ hpos hle htail ih =>
    have hstop := htail.le
    have htake : (buffer.take length).length = length := by rw [List.length_take]; omega
    have hdrop : buffer.length = length + (buffer.drop length).length := by
      rw [List.length_drop]
      omega
    obtain ⟨source, hsource, haddress⟩ :=
      registerAt_piece register offset (by omega) hspace
    obtain ⟨outcome, filled, v, hrun, hkeeps, hsame, hends⟩ :=
      h.readChunk source (buffer.take length) w ⟨by omega, by omega, by omega⟩
    rcases hends with ⟨rfl, hfilled⟩ | ⟨e, rfl, hfailed⟩
    · obtain ⟨outcome, rest, u, calls, reached, hrest, haccess, hkeeps', hok, hcontents, hread⟩ :=
        ih (buffer.drop length) v (log ++ [.bus ⟨.read, source, filled, .ok ()⟩])
          (hkeeps.chunkSize.trans hsize) (by rw [hkeeps.addressLimit]; exact hlimit)
          (by rw [hkeeps.addressLimit]; exact hspace) (by omega)
      refine ⟨outcome, filled ++ rest, u, ⟨.read, source, filled, .ok ()⟩ :: calls, reached, ?_,
        haccess.cons rfl haddress rfl ?_, hkeeps.trans hkeeps', hok, hcontents.trans hsame, ?_⟩
      · simp only [RegisterBus.readSpans, hsource, traced, hrun] at hrest ⊢
        rw [hrest, List.map_cons, List.append_assoc, List.singleton_append]
        rfl
      · rw [BusCall.length, hfilled, Contents.length_read, htake]
      · intro houtcome
        rw [hread houtcome, hfilled, htake, hsame, haddress, hdrop, Contents.read_add,
          Nat.add_assoc]
    · refine ⟨.error (.bus .read offset e), filled ++ buffer.drop length, v,
        [⟨.read, source, filled, .error e⟩], offset, ?_,
        .failed (.nil _) rfl haddress rfl (Nat.le_refl _) (by omega), hkeeps, .inr hfailed, hsame,
        fun houtcome => by cases houtcome⟩
      simp only [RegisterBus.readSpans, hsource, traced, hrun, List.map_cons, List.map_nil]

/-- What a write within the limit of a serving bus does. -/
theorem write_traced (h : bus.Serves contents Failed) (register : UInt16) (data : Bytes) (w : ω)
    (log : List (Event ε)) (hchunk : 0 < bus.chunkSize w)
    (hspace : bus.addressLimit w ≤ registerSpace)
    (hlimit : register.toNat + data.length ≤ bus.addressLimit w) :
    ∃ outcome v calls reached,
      bus.traced.write register data (w, log) = ⟨outcome, (v, log ++ calls.map .bus)⟩ ∧
        Access .write register.toNat 0 data.length outcome calls reached ∧
        bus.Keeps Failed w v ∧ (outcome = .ok () ∨ Failed v) ∧
        contents v = (contents w).patch register.toNat (data.take reached) := by
  rw [bus.traced.write_of_le (w := (w, log)) hlimit hchunk]
  exact h.writeSpans_traced register (Span.tiles_split hchunk data.length) data w log rfl hlimit
    hspace (Nat.zero_add _)

/-- What a read within the limit of a serving bus does. -/
theorem read_traced (h : bus.Serves contents Failed) (register : UInt16) (buffer : Bytes) (w : ω)
    (log : List (Event ε)) (hchunk : 0 < bus.chunkSize w)
    (hspace : bus.addressLimit w ≤ registerSpace)
    (hlimit : register.toNat + buffer.length ≤ bus.addressLimit w) :
    ∃ outcome filled v calls reached,
      bus.traced.read register buffer (w, log)
          = ⟨outcome, (filled, (v, log ++ calls.map .bus))⟩ ∧
        Access .read register.toNat 0 buffer.length outcome calls reached ∧
        bus.Keeps Failed w v ∧ (outcome = .ok () ∨ Failed v) ∧ contents v = contents w ∧
        (outcome = .ok () → filled = (contents w).read register.toNat buffer.length) := by
  rw [bus.traced.read_of_le (w := (w, log)) hlimit hchunk]
  exact h.readSpans_traced register (Span.tiles_split hchunk buffer.length) buffer w log rfl hlimit
    hspace (Nat.zero_add _)

/-- A write within the limit overwrites its registers, unless a call fails. -/
theorem write_ends (h : bus.Serves contents Failed) (register : UInt16) (data : Bytes) (w : ω)
    (hchunk : 0 < bus.chunkSize w) (hspace : bus.addressLimit w ≤ registerSpace)
    (hlimit : register.toNat + data.length ≤ bus.addressLimit w) :
    ∃ outcome v, bus.write register data w = ⟨outcome, v⟩ ∧ bus.Keeps Failed w v ∧
      (Failed v ∨ outcome = .ok () ∧ contents v = (contents w).patch register.toNat data) := by
  obtain ⟨outcome, v, calls, reached, hrun, haccess, hkeeps, hok, hcontents⟩ :=
    h.write_traced register data w [] hchunk hspace hlimit
  have hplain := bus.write_traced register data w []
  obtain ⟨⟨outcome', v'⟩, hrun'⟩ : ∃ run, bus.write register data w = run := ⟨_, rfl⟩
  rw [hrun, hrun'] at hplain
  obtain ⟨rfl, rfl⟩ := hplain
  refine ⟨_, _, hrun', hkeeps, ?_⟩
  cases haccess with
  | finished =>
    rw [List.take_length] at hcontents
    exact .inr ⟨rfl, hcontents⟩
  | failed => exact .inl (hok.resolve_left fun h => by cases h)

/-- A read within the limit brings its registers, unless a call fails. -/
theorem read_ends (h : bus.Serves contents Failed) (register : UInt16) (buffer : Bytes) (w : ω)
    (hchunk : 0 < bus.chunkSize w) (hspace : bus.addressLimit w ≤ registerSpace)
    (hlimit : register.toNat + buffer.length ≤ bus.addressLimit w) :
    ∃ outcome filled v, bus.read register buffer w = ⟨outcome, (filled, v)⟩ ∧
      bus.Keeps Failed w v ∧ contents v = contents w ∧
      (Failed v ∨
        outcome = .ok () ∧ filled = (contents w).read register.toNat buffer.length) := by
  obtain ⟨outcome, filled, v, calls, reached, hrun, _, hkeeps, hok, hcontents, hfilled⟩ :=
    h.read_traced register buffer w [] hchunk hspace hlimit
  have hplain := bus.read_traced register buffer w []
  obtain ⟨⟨outcome', filled', v'⟩, hrun'⟩ : ∃ run, bus.read register buffer w = run := ⟨_, rfl⟩
  rw [hrun, hrun'] at hplain
  obtain ⟨rfl, rfl, rfl⟩ := hplain
  refine ⟨_, _, _, hrun', hkeeps, hcontents, ?_⟩
  rcases hok with rfl | hfailed
  · exact .inr ⟨rfl, hfilled rfl⟩
  · exact .inl hfailed

end RegisterBus.Serves

end SensorLink

/-
Requests through the staging buffer, next to plain accesses.

A request moves its bytes in blocks through a staging buffer, and each block is an access
of its own.  What the bus sees of this is what it sees of one access to all of the bytes,
unless a block ends inside of a chunk.

* `Moved.direct`, `Moved.of_length` — pieces in a plain access, and with other bytes;
* `Staged.direct`, `Staged.messages_eq` — what a request has moved, next to a plain access;
* `Request.Counterpart` — the bytes for such an access;
* `Request.aligned_of_messages` — the calls are the same only if blocks end where chunks do;
* `Endpoint.staging_transparent` — what a request does, and when it looks like a plain
  access.
-/
import SensorLink.Proofs.Control.Stretches
import SensorLink.Proofs.Register.AddressSpace
import SensorLink.Proofs.Wire.Overwriting

namespace SensorLink

variable {ω μ ε : Type}

/-! ### A plain access -/

/-- A read that is not stopped asks for its pieces, whatever it finds. -/
theorem ChunkRun.map_message {register : Nat} {Post : Bytes → BusCall ε → Prop} {pieces : List Span}
    {bytes : Bytes} {calls : List (BusCall ε)}
    (h : ChunkRun .read register Post pieces bytes calls (.ok ())) :
    calls.map BusCall.message
      = pieces.map fun piece => .read (UInt16.ofNat (register + piece.offset)) piece.length := by
  generalize hdirection : Direction.read = direction at h
  generalize hok : (Outcome.ok () : Outcome (AccessError ε) Unit) = outcome at h
  induction h with
  | nil => rfl
  | @cons piece pieces bytes call _ _ hmoves _ _ _ ih =>
    obtain ⟨hcall, hregister, hlength⟩ := hmoves
    have hmessage : call.message = .read call.register call.length := by
      rw [BusCall.message, hcall, ← hdirection]
    rw [List.map_cons, List.map_cons, ih hok, hmessage, ← hregister, hlength, UInt16.ofNat_toNat]
  | last _ _ hne => exact absurd (Outcome.mapError_eq_ok.mp hok.symm) hne

namespace RegisterBus

variable {bus : RegisterBus ω ε} {w v : ω} {direction : Direction} {register : UInt16}
  {handed bytes : Bytes} {outcome : Outcome (AccessError ε) Unit} {calls : List (BusCall ε)}

/-- The pieces of a plain access are moved as it moves them. -/
theorem Moved.direct
    (h : bus.Moved direction register (Span.split (bus.chunkSize w) bytes.length) bytes w outcome v
      calls)
    (hchunk : 0 < bus.chunkSize w) (hlimit : register.toNat + bytes.length ≤ bus.addressLimit w) :
    bus.calls direction register bytes w = calls ∧
      (bus.access direction register bytes w).outcome = outcome ∧
      (bus.access direction register bytes w).world.2 = v := by
  obtain ⟨filled, hrun⟩ := h
  obtain ⟨houtcome, _, hworld⟩ := bus.access_traced direction register bytes w []
  have hmoved : bus.traced.access direction register bytes (w, [])
      = ⟨outcome, (filled, (v, [] ++ calls.map .bus))⟩ :=
    (bus.traced.access_of_le (w := (w, [])) direction register hlimit hchunk).trans (hrun [])
  rw [RegisterBus.calls, ← houtcome, ← hworld, hmoved, List.nil_append, Event.busCalls_map_bus]
  exact ⟨rfl, rfl, rfl⟩

theorem Blind.chunk (h : bus.Blind) (register : UInt16) (hlength : handed.length = bytes.length)
    (w : ω) :
    ∃ ending filled filled' v, bus.chunk .read register handed w = ⟨ending, (filled, v)⟩ ∧
      bus.chunk .read register bytes w = ⟨ending, (filled', v)⟩ ∧
      filled.length = filled'.length := by
  obtain ⟨hsame, hworld⟩ := h register handed bytes w hlength
  have hfilled := bus.length_readChunk register handed w
  have hfilled' := bus.length_readChunk register bytes w
  obtain ⟨⟨ending, filled, v⟩, hrun⟩ : ∃ run, bus.readChunk register handed w = run := ⟨_, rfl⟩
  obtain ⟨⟨ending', filled', v'⟩, hrun'⟩ : ∃ run, bus.readChunk register bytes w = run := ⟨_, rfl⟩
  rw [hrun, hrun'] at hsame hworld
  rw [hrun] at hfilled
  rw [hrun'] at hfilled'
  obtain rfl : ending = ending' := hsame
  obtain rfl : v = v' := hworld
  exact ⟨ending, filled, filled', v, hrun, hrun', hfilled.trans (hlength.trans hfilled'.symm)⟩

/-- Reads into buffers of one length ask for the same and end alike, if the bus does not look
at what they held. -/
theorem Blind.moved (h : bus.Blind) (register : UInt16) (pieces : List Span)
    (hlength : handed.length = bytes.length) (w : ω) :
    ∃ outcome v calls calls', bus.Moved .read register pieces handed w outcome v calls ∧
      bus.Moved .read register pieces bytes w outcome v calls' ∧
      calls.map BusCall.message = calls'.map BusCall.message := by
  induction pieces generalizing handed bytes w with
  | nil => exact ⟨.ok (), w, [], [], .nil .., .nil .., rfl⟩
  | cons piece pieces ih =>
    cases htarget : registerAt register piece.offset with
    | none =>
      exact ⟨.trap .registerOverflow, w, [], [], .overflow htarget .., .overflow htarget .., rfl⟩
    | some target =>
      have htake : (handed.take piece.length).length = (bytes.take piece.length).length := by
        rw [List.length_take, List.length_take, hlength]
      have hdrop : (handed.drop piece.length).length = (bytes.drop piece.length).length := by
        rw [List.length_drop, List.length_drop, hlength]
      obtain ⟨ending, filled, filled', v, hrun, hrun', hfilled⟩ := h.chunk target htake w
      have hmessage : BusCall.message ⟨.read, target, filled, ending⟩
          = BusCall.message ⟨.read, target, filled', ending⟩ :=
        congrArg (ChunkMessage.read target) hfilled
      by_cases hok : ending = .ok ()
      · subst hok
        obtain ⟨outcome, u, calls, calls', hmoved, hmoved', hmessages⟩ := ih hdrop v
        refine ⟨outcome, u, _, _, hmoved.cons htarget hrun, hmoved'.cons htarget hrun', ?_⟩
        rw [List.map_cons, List.map_cons, hmessage, hmessages]
      · refine ⟨_, v, _, _, .last htarget hrun hok pieces, .last htarget hrun' hok pieces, ?_⟩
        rw [List.map_singleton, List.map_singleton, hmessage]

/-- The same pieces with other bytes.  A write is to have the same bytes, and a read may have
any if the bus does not look at them. -/
theorem Moved.of_length {pieces : List Span}
    (h : bus.Moved direction register pieces handed w outcome v calls)
    (hlength : handed.length = bytes.length) (hwrite : direction = .write → handed = bytes)
    (hread : direction = .read → bus.Blind) :
    ∃ calls', bus.Moved direction register pieces bytes w outcome v calls' ∧
      calls.map BusCall.message = calls'.map BusCall.message := by
  cases direction with
  | write =>
    obtain rfl := hwrite rfl
    exact ⟨calls, h, rfl⟩
  | read =>
    obtain ⟨_, _, _, calls', hmoved, hmoved', hmessages⟩ :=
      (hread rfl).moved register pieces hlength w
    obtain ⟨rfl, rfl, rfl⟩ := h.unique hmoved
    exact ⟨calls', hmoved', hmessages⟩

/-- Reads of one length that do not fail ask for the same. -/
theorem Steady.messages_eq (h : bus.Steady) (hread : direction = .read)
    (hlength : handed.length = bytes.length) (hchunk : 0 < bus.chunkSize w)
    (hspace : bus.addressLimit w ≤ registerSpace)
    (hlimit : register.toNat + bytes.length ≤ bus.addressLimit w)
    (hok : ∀ call ∈ bus.calls direction register handed w, call.outcome = .ok ())
    (hok' : ∀ call ∈ bus.calls direction register bytes w, call.outcome = .ok ()) :
    (bus.calls direction register handed w).map BusCall.message
      = (bus.calls direction register bytes w).map BusCall.message := by
  subst hread
  obtain ⟨_, _, _, calls, hrun, _, hchunks, _⟩ :=
    h.access .read register hchunk hspace (hlength.symm ▸ hlimit)
  obtain ⟨_, _, _, calls', hrun', _, hchunks', _⟩ := h.access .read register hchunk hspace hlimit
  rw [RegisterBus.calls, hrun, List.nil_append, Event.busCalls_map_bus] at hok ⊢
  rw [RegisterBus.calls, hrun', List.nil_append, Event.busCalls_map_bus] at hok' ⊢
  obtain rfl := hchunks.ok_iff.mpr hok
  obtain rfl := hchunks'.ok_iff.mpr hok'
  rw [hchunks.map_message, hchunks'.map_message, hlength]

end RegisterBus

/-! ### Requests and plain accesses -/

/-- The bytes for a plain access that does what the request does: those of the caller for a
write, and any buffer for a read. -/
structure Request.Counterpart (request : Request) (boundary : Boundary μ) (m : μ) (bytes : Bytes) :
    Prop where
  length_eq : bytes.length = request.length.toNat
  of_write : request.direction = .write → ∃ memory Grants, boundary.Honors memory Grants ∧
    bytes = (memory m).read request.buffer.toNat bytes.length

namespace Request.Staged

variable {request : Request} {bus : RegisterBus ω ε} {w v : ω} {plan : List Step}
  {handed bytes : Bytes} {outcome : Outcome (AccessError ε) Unit} {events : List (Event ε)}

/-- If the blocks end where chunks do, what was moved are the pieces of one cut. -/
theorem moved_aligned
    (h : request.Staged bus
      (Span.recut (bus.chunkSize w) (Span.split stagingSize request.length.toNat)) plan handed w
      outcome v events)
    (hchunk : 0 < bus.chunkSize w) (haligned : request.Aligned (bus.chunkSize w))
    (hlength : handed.length = request.length.toNat) :
    bus.Moved request.direction request.register (Span.split (bus.chunkSize w) handed.length)
      handed w outcome v (Event.busCalls events) := by
  have hmoved := h.moved
  rwa [Span.recut_split_eq (by decide) hchunk haligned, ← hlength] at hmoved

/-- What was moved is what a plain access moves, if it has the same bytes or the bus does not
look at them. -/
theorem direct
    (h : request.Staged bus
      (Span.recut (bus.chunkSize w) (Span.split stagingSize request.length.toNat)) plan handed w
      outcome v events)
    (hchunk : 0 < bus.chunkSize w) (haligned : request.Aligned (bus.chunkSize w))
    (hlimit : request.register.toNat + bytes.length ≤ bus.addressLimit w)
    (hbytes : bytes.length = request.length.toNat) (hlength : handed.length = bytes.length)
    (hwrite : request.direction = .write → handed = bytes)
    (hread : request.direction = .read → bus.Blind) :
    (Event.busCalls events).map BusCall.message
        = (bus.calls request.direction request.register bytes w).map BusCall.message ∧
      (bus.access request.direction request.register bytes w).outcome = outcome ∧
      (bus.access request.direction request.register bytes w).world.2 = v := by
  have hmoved := h.moved_aligned hchunk haligned (hlength.trans hbytes)
  obtain ⟨calls, hmoved', hmessages⟩ := hmoved.of_length hlength hwrite hread
  rw [hlength] at hmoved'
  obtain ⟨hcalls, hdirect, hworld⟩ := hmoved'.direct hchunk hlimit
  exact ⟨hmessages.trans (congrArg _ hcalls.symm), hdirect, hworld⟩

/-- A read and a plain read of which no call fails ask for the same. -/
theorem messages_eq
    (h : request.Staged bus
      (Span.recut (bus.chunkSize w) (Span.split stagingSize request.length.toNat)) plan handed w
      outcome v events)
    (hsteady : bus.Steady) (hchunk : 0 < bus.chunkSize w)
    (hspace : bus.addressLimit w ≤ registerSpace) (haligned : request.Aligned (bus.chunkSize w))
    (hlimit : request.register.toNat + bytes.length ≤ bus.addressLimit w)
    (hbytes : bytes.length = request.length.toNat) (hlength : handed.length = bytes.length)
    (hread : request.direction = .read)
    (hok : ∀ call ∈ Event.busCalls events, call.outcome = .ok ())
    (hok' : ∀ call ∈ bus.calls request.direction request.register bytes w, call.outcome = .ok ()) :
    (Event.busCalls events).map BusCall.message
      = (bus.calls request.direction request.register bytes w).map BusCall.message := by
  have hmoved := h.moved_aligned hchunk haligned (hlength.trans hbytes)
  obtain ⟨hcalls, _⟩ := hmoved.direct hchunk (hlength.symm ▸ hlimit)
  rw [← hcalls] at hok ⊢
  exact hsteady.messages_eq hread hlength hchunk hspace hlimit hok hok'

end Request.Staged

/-- A second block starts with a chunk. -/
theorem Request.chunk_mem_plan (request : Request) {chunkSize : Nat} (hchunk : 0 < chunkSize)
    (h : stagingSize < request.length.toNat) :
    ∃ length, .chunk request.direction (request.register.toNat + stagingSize) length
      ∈ request.plan chunkSize := by
  obtain ⟨block, hblock, hoffset⟩ :=
    (Span.tiles_split (show 0 < stagingSize by decide) request.length.toNat).exists_mem
      (Nat.dvd_refl stagingSize) (Nat.zero_le _) h
  have hpos : 0 < block.length := by
    obtain ⟨k, hk⟩ := List.getElem?_of_mem hblock
    obtain ⟨rfl, hlt⟩ := Span.getElem?_split (by decide) hk
    exact Nat.lt_min.mpr ⟨by decide, Nat.sub_pos_of_lt hlt⟩
  have hfirst : Step.chunk request.direction (request.register.toNat + stagingSize)
      (min chunkSize block.length) ∈ request.chunkSteps chunkSize block := by
    rw [Request.chunkSteps, Span.split_of_pos hchunk hpos, hoffset]
    exact List.mem_cons_self
  exact ⟨min chunkSize block.length, List.mem_append_right _ (List.mem_flatMap.mpr
    ⟨block, hblock, request.chunkSteps_subset chunkSize block hfirst⟩)⟩

theorem Event.exists_of_step {events : List (Event ε)} {direction : Direction}
    {register length : Nat} (h : .chunk direction register length ∈ events.map Event.step) :
    ∃ call ∈ busCalls events, call.register.toNat = register := by
  obtain ⟨event, hmem, hstep⟩ := List.mem_map.mp h
  cases event with
  | bus call =>
    cases hstep
    exact ⟨call, List.mem_filterMap.mpr ⟨_, hmem, rfl⟩, rfl⟩
  | check => cases hstep
  | copyIn => cases hstep
  | copyOut => cases hstep

/-- A request that goes by plan makes the chunk calls of a plain access only if its blocks end
where chunks do, or there is only one. -/
theorem Request.aligned_of_messages {request : Request} {bus : RegisterBus ω ε} {w : ω}
    {bytes : Bytes} {events : List (Event ε)} (hchunk : 0 < bus.chunkSize w)
    (hspace : request.register.toNat + bytes.length ≤ registerSpace)
    (hsteps : events.map Event.step = request.plan (bus.chunkSize w))
    (hmessages : (Event.busCalls events).map BusCall.message
      = (bus.calls request.direction request.register bytes w).map BusCall.message) :
    request.Aligned (bus.chunkSize w) := by
  refine (Nat.lt_or_ge stagingSize request.length.toNat).symm.imp_right fun hlong => ?_
  -- There is a second block, and its first chunk is one of the plain access, too.
  obtain ⟨length, hstep⟩ := request.chunk_mem_plan hchunk hlong
  rw [← hsteps] at hstep
  obtain ⟨call, hmem, hregister⟩ := Event.exists_of_step hstep
  obtain ⟨other, hother, hmessage⟩ := List.mem_map.mp (hmessages ▸ List.mem_map_of_mem hmem)
  obtain ⟨k, hk⟩ := List.getElem?_of_mem hother
  obtain ⟨hoffset, _⟩ := (bus.exact_of_le hchunk hspace).register_eq k other hk
  have hsame : other.register = call.register := by
    rw [← other.register_message, hmessage, call.register_message]
  rw [hsame, hregister] at hoffset
  exact ⟨k, (Nat.add_left_cancel hoffset).trans (Nat.mul_comm ..)⟩

theorem TwoWireLink.steady_registerBus {σ δ : Type} (controller : TwoWireBus σ δ) :
    (registerBus controller).Steady :=
  fun _ _ _ _ _ => ⟨rfl, rfl⟩

namespace Endpoint

/-- A request whose copies succeed and whose bus does not fail makes one check, and then for
each block its copy and its chunk calls, in order.  The bus gets the same calls as from one
plain access to all of the bytes iff the blocks end where chunks do or there is only one;
then, whatever fails, both make the same calls, report the same, and leave the same.  Only a
read that fails may differ, and only if it fails for what was in its buffer before.  Over two
wires blocks always end where chunks do. -/
theorem staging_transparent {bus : RegisterBus ω ε} {w : ω} (hsteady : bus.Steady)
    (boundary : Boundary μ) (request : Request) (staging : Staging) (m : μ)
    (hchunk : 0 < bus.chunkSize w) (hspace : bus.addressLimit w ≤ registerSpace)
    (hspan : request.register.toNat + request.length.toNat ≤ bus.addressLimit w)
    (hbuffer : request.buffer.toNat + request.length.toNat ≤ UInt64.size)
    (hcopies : ∀ event ∈ calls (bus.beside μ) (boundary.after ω) request staging (w, m),
      event.failure? = none) :
    let events := calls (bus.beside μ) (boundary.after ω) request staging (w, m)
    let run := execute (bus.beside μ) (boundary.after ω) request staging (w, m)
    let messages := (Event.busCalls events).map BusCall.message
    ((∀ call ∈ Event.busCalls events, call.outcome = .ok ()) →
      run.outcome = .ok () ∧ events.map Event.step = request.plan (bus.chunkSize w)) ∧
    (∀ bytes, request.Counterpart boundary m bytes →
      let direct := bus.access request.direction request.register bytes w
      let directCalls := bus.calls request.direction request.register bytes w
      let directMessages := directCalls.map BusCall.message
      ((∀ call ∈ Event.busCalls events, call.outcome = .ok ()) →
        (request.direction = .read → bus.Blind ∨ ∀ call ∈ directCalls, call.outcome = .ok ()) →
        (messages = directMessages ↔ request.Aligned (bus.chunkSize w))) ∧
      (request.Aligned (bus.chunkSize w) → (request.direction = .read → bus.Blind) →
        messages = directMessages ∧ run.outcome = direct.outcome.mapError .access ∧
          run.world.2.1 = direct.world.2)) ∧
    ∀ {σ δ : Type} (controller : TwoWireBus σ δ),
      (TwoWireLink.registerBus controller).Steady ∧
      (controller.Overwrites → (TwoWireLink.registerBus controller).Blind) ∧
      ∀ (link : TwoWireLink σ) (other : Request),
        other.Aligned ((TwoWireLink.registerBus controller).chunkSize link) := by
  intro events run messages
  have hstaged := fun (supply : Bytes) (hsupply : supply.length = request.length.toNat) =>
    (execute_staged hsteady boundary request staging m hchunk hspace hspan hbuffer
      hsupply).of_copies hcopies
  have hplan : (∀ call ∈ Event.busCalls events, call.outcome = .ok ()) →
      run.outcome = .ok () ∧ events.map Event.step = request.plan (bus.chunkSize w) := by
    intro hok
    obtain ⟨inner, _, houtcome, _, hstaged, _⟩ :=
      hstaged (List.replicate request.length.toNat 0) List.length_replicate
    have hinner := hstaged.ok_of_calls hok
    exact ⟨houtcome.trans (hinner ▸ rfl), hstaged.steps hinner⟩
  refine ⟨hplan, ?_, fun controller => ⟨TwoWireLink.steady_registerBus controller,
    TwoWireLink.blind_registerBus, fun _ _ => .inr (Nat.dvd_refl _)⟩⟩
  intro bytes hbytes direct directCalls directMessages
  have hlimit : request.register.toNat + bytes.length ≤ bus.addressLimit w :=
    hbytes.length_eq.symm ▸ hspan
  obtain ⟨inner, handed, houtcome, hlength, hstaged, hwrite⟩ := hstaged bytes hbytes.length_eq
  have hsupplied : request.direction = .write → handed = bytes := by
    intro hdirection
    obtain ⟨memory, Grants, hhonors, hsupplied⟩ := hbytes.of_write hdirection
    exact hwrite hdirection memory Grants hhonors hsupplied
  have hsame : request.Aligned (bus.chunkSize w) → (request.direction = .read → bus.Blind) →
      messages = directMessages ∧ run.outcome = direct.outcome.mapError .access ∧
        run.world.2.1 = direct.world.2 := by
    intro haligned hblind
    obtain ⟨hmessages, hdirect, hworld⟩ :=
      hstaged.direct hchunk haligned hlimit hbytes.length_eq hlength hsupplied hblind
    exact ⟨hmessages, houtcome.trans (congrArg _ hdirect.symm), hworld.symm⟩
  refine ⟨fun hok hread => ⟨Request.aligned_of_messages hchunk (Nat.le_trans hlimit hspace)
    (hplan hok).2, fun haligned => ?_⟩, hsame⟩
  by_cases hdirection : request.direction = .read
  · rcases hread hdirection with hblind | hok'
    · exact (hsame haligned fun _ => hblind).1
    · exact hstaged.messages_eq hsteady hchunk hspace haligned hlimit hbytes.length_eq hlength
        hdirection hok hok'
  · exact (hsame haligned fun h => absurd h hdirection).1

theorem blind_rationed (size : Nat) : (RegisterBus.rationed size).Blind
  | _, _, _, (_, 0), _ => ⟨rfl, rfl⟩
  | _, _, _, (_, _ + 1), _ => ⟨rfl, rfl⟩

/-- Requests of 1600 bytes in chunks of 512, of which the last one of the second block may
fail. -/
theorem staging_transparent_second_block :
    let bus := RegisterBus.rationed 512
    let registers : Contents := fun address => UInt8.ofNat address
    let memory : Contents := fun _ => 7
    let request (direction : Direction) : Request := ⟨1600, 0x10, direction, 0x2000⟩
    let bytes := memory.read (request .write).buffer.toNat (request .write).length.toNat
    let events := calls (bus.beside Contents) (Boundary.whole.after (Contents × Nat))
      (request .write) (Scratch.zero _) ((registers, 4), memory)
    let run direction := execute (bus.beside Contents) (Boundary.whole.after (Contents × Nat))
      (request direction) (Scratch.zero _) ((registers, 3), memory)
    let direct direction := bus.access direction 0x10 bytes (registers, 3)
    events.map Event.step = [.check 0x2000 1600, .copy .write 0x2000 1024, .chunk .write 0x10 512,
        .chunk .write 0x210 512, .copy .write 0x2400 576, .chunk .write 0x410 512,
        .chunk .write 0x610 64] ∧
      ∀ direction, (direct direction).outcome = .error (.bus direction 1536 ()) ∧
        (run direction).outcome = (direct direction).outcome.mapError .access ∧
        (run direction).world.2.1 = (direct direction).world.2 := by
  intro bus registers memory request bytes events run direct
  have hsteady : bus.Steady := (RegisterBus.serves_rationed 512).steady
  have hcopies : ∀ event ∈ events, event.failure? = none := by decide +kernel
  obtain ⟨hplan, _⟩ := staging_transparent hsteady Boundary.whole (request .write)
    (Scratch.zero _) memory (w := (registers, 4)) (by decide) (Nat.le_refl _) (by decide)
    (by decide) hcopies
  obtain ⟨_, hsteps⟩ := hplan (by decide +kernel)
  refine ⟨hsteps.trans (by decide +kernel), fun direction => ?_⟩
  have hspan : (0x10 : UInt16).toNat + (1600 : UInt16).toNat ≤ registerSpace := by decide
  have hbuffer : (0x2000 : UInt64).toNat + (1600 : UInt16).toNat ≤ UInt64.size := by decide
  have hbytes : (request direction).Counterpart Boundary.whole memory bytes := by
    refine ⟨memory.length_read .., fun _ => ⟨_, _, Boundary.honors_whole, ?_⟩⟩
    simp only [bytes, Contents.length_read]
    rfl
  have hcopies' : ∀ event ∈ calls (bus.beside Contents) (Boundary.whole.after (Contents × Nat))
      (request direction) (Scratch.zero _) ((registers, 3), memory), event.failure? = none := by
    cases direction <;> decide +kernel
  have hfailed : (direct direction).outcome = .error (.bus direction 1536 ()) := by
    cases direction <;> decide +kernel
  obtain ⟨_, hdirect, _⟩ := staging_transparent hsteady Boundary.whole (request direction)
    (Scratch.zero _) memory (w := (registers, 3)) (by decide) (Nat.le_refl _) hspan hbuffer
    hcopies'
  obtain ⟨_, houtcome, hworld⟩ :=
    (hdirect bytes hbytes).2 (.inr (by decide)) fun _ => blind_rationed 512
  simp only [run, direct]
  exact ⟨hfailed, houtcome, hworld⟩

end Endpoint

end SensorLink

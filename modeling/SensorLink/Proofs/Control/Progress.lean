/-
What a request moves, and by which calls.

A request moves its bytes in blocks, and each block in the chunks of the bus.  How
far it came can be told by two counts: the bytes that have passed between the
registers and the bus, and those that have passed the boundary to caller memory.
The counts differ only if the bus failed inside of a block.

* `Request.registersAfter`, `Request.memoryAfter` — the contents of the registers
  and of caller memory once a number of bytes has moved;
* `Setting` — a serving bus and a boundary that honors caller memory;
* `Setting.Reached` — the invariant of the blocks;
* `Setting.Progress` — how a run of blocks ends;
* `moveBlock_progress`, `moveBlocks_progress` — one block, and all of them;
* `Setting.Ending`, `ending_execute` — a whole request.
-/
import SensorLink.Proofs.Control.CallerMemory
import SensorLink.Proofs.Register.Serving

namespace SensorLink

/-! ### The bytes that have moved -/

namespace Request

/-- The registers once `count` bytes of the request have moved. -/
def registersAfter (request : Request) (registers memory : Contents) (count : Nat) : Contents :=
  match request.direction with
  | .read => registers
  | .write => registers.patch request.register.toNat (memory.read request.buffer.toNat count)

/-- Caller memory once `count` bytes of the request have moved. -/
def memoryAfter (request : Request) (registers memory : Contents) (count : Nat) : Contents :=
  match request.direction with
  | .read => memory.patch request.buffer.toNat (registers.read request.register.toNat count)
  | .write => memory

variable (request : Request) (registers memory : Contents)

@[simp] theorem registersAfter_zero : request.registersAfter registers memory 0 = registers := by
  unfold registersAfter
  split
  · rfl
  · rw [Contents.read_zero, Contents.patch_nil]

@[simp] theorem memoryAfter_zero : request.memoryAfter registers memory 0 = memory := by
  unfold memoryAfter
  split
  · rw [Contents.read_zero, Contents.patch_nil]
  · rfl

theorem registersAfter_add {request : Request} (hwrite : request.direction = .write) (m n : Nat) :
    request.registersAfter registers memory (m + n)
      = (request.registersAfter registers memory m).patch (request.register.toNat + m)
        (memory.read (request.buffer.toNat + m) n) := by
  simp only [registersAfter, hwrite]
  rw [Contents.read_add, Contents.patch_append, Contents.length_read]

theorem memoryAfter_add {request : Request} (hread : request.direction = .read) (m n : Nat) :
    request.memoryAfter registers memory (m + n)
      = (request.memoryAfter registers memory m).patch (request.buffer.toNat + m)
        (registers.read (request.register.toNat + m) n) := by
  simp only [memoryAfter, hread]
  rw [Contents.read_add, Contents.patch_append, Contents.length_read]

theorem registersAfter_of_read {request : Request} (hread : request.direction = .read)
    (count : Nat) : request.registersAfter registers memory count = registers := by
  simp only [registersAfter, hread]

theorem memoryAfter_of_write {request : Request} (hwrite : request.direction = .write)
    (count : Nat) : request.memoryAfter registers memory count = memory := by
  simp only [memoryAfter, hwrite]

end Request

/-! ### The invariant of the blocks -/

/-- A bus that serves registers, and a boundary that honors caller memory. -/
structure Setting (β μ ε : Type) where
  bus : RegisterBus β ε
  boundary : Boundary μ
  contents : β → Contents
  Failed : β → Prop
  memory : μ → Contents
  Grants : μ → UInt64 → Nat → Prop
  serves : bus.Serves contents Failed
  honors : boundary.Honors memory Grants

namespace Setting

variable {β μ ε : Type} (s : Setting β μ ε)

/-- The bus with a recorder, in the world of both. -/
def tracedBus : RegisterBus ((β × μ) × List (Event ε)) ε :=
  (s.bus.beside μ).traced

/-- The boundary with a recorder, in the world of both. -/
def tracedBoundary : Boundary ((β × μ) × List (Event ε)) :=
  (s.boundary.after β).traced ε

/-- The registers of the request are within the limit of a working bus. -/
structure Fits (request : Request) (b : β) : Prop where
  chunkSize_pos : 0 < s.bus.chunkSize b
  addressLimit_le : s.bus.addressLimit b ≤ registerSpace
  span_le : request.register.toNat + request.length.toNat ≤ s.bus.addressLimit b

/-- From the worlds `b₀` and `u₀`, the registers have come as far as `sent` bytes of
the request take them, and caller memory as far as `stored` bytes do. -/
structure Reached (request : Request) (b₀ : β) (u₀ : μ) (sent stored : Nat) (b : β) (u : μ) :
    Prop where
  keeps : s.bus.Keeps s.Failed b₀ b
  grants : s.Grants u = s.Grants u₀
  contents : s.contents b = request.registersAfter (s.contents b₀) (s.memory u₀) sent
  memory : s.memory u = request.memoryAfter (s.contents b₀) (s.memory u₀) stored

/-- A block `offset` bytes into the request can be refused: its address overflows, or
some of it is not granted. -/
def Refusable (request : Request) (u : μ) (offset : Nat) : Prop :=
  UInt64.size ≤ request.buffer.toNat + offset ∨
    ∃ address length, address.toNat = request.buffer.toNat + offset ∧
      offset + length ≤ request.length.toNat ∧ ¬s.Grants u address length

/-- How the blocks from `start` up to `stop` end. -/
inductive Progress (request : Request) (b₀ : β) (u₀ : μ) (start stop : Nat) :
    Outcome (RequestError ε) Unit → List (BusCall ε) → β → μ → Prop
  | finished {calls : List (BusCall ε)} {b : β} {u : μ} :
      Advances request.direction (request.register.toNat + start) calls
        (request.register.toNat + stop) →
      s.Reached request b₀ u₀ stop stop b u →
      Progress request b₀ u₀ start stop (.ok ()) calls b u
  | failed {calls : List (BusCall ε)} {call : BusCall ε} {e : ε} {n : Nat} {b : β} {u : μ} :
      Advances request.direction (request.register.toNat + start) calls
        (request.register.toNat + n) →
      call.direction = request.direction → call.register.toNat = request.register.toNat + n →
      call.outcome = .error e → start ≤ n → n < stop → s.Failed b →
      s.Reached request b₀ u₀ n (stagingSize * (n / stagingSize)) b u →
      Progress request b₀ u₀ start stop (.error (.access (.bus request.direction n e)))
        (calls ++ [call]) b u
  | refused {calls : List (BusCall ε)} {cause : CopyError} {n reached : Nat} {b : β} {u : μ} :
      Advances request.direction (request.register.toNat + start) calls
        (request.register.toNat + reached) →
      n ≤ reached → stagingSize ∣ n → start ≤ n → n < stop → s.Refusable request u₀ n →
      s.Reached request b₀ u₀ n n b u →
      Progress request b₀ u₀ start stop (.error (.buffer cause)) calls b u

variable {s} {request : Request} {b₀ b c : β} {u₀ u v : μ}

namespace Reached

theorem refl (s : Setting β μ ε) (request : Request) (b : β) (u : μ) :
    s.Reached request b u 0 0 b u :=
  ⟨.refl .., rfl, (request.registersAfter_zero ..).symm, (request.memoryAfter_zero ..).symm⟩

/-- Nothing moves. -/
theorem keep {sent stored : Nat} (h : s.Reached request b₀ u₀ sent stored b u)
    (hkeeps : s.bus.Keeps s.Failed b c) (hgrants : s.Grants v = s.Grants u)
    (hcontents : s.contents c = s.contents b) (hmemory : s.memory v = s.memory u) :
    s.Reached request b₀ u₀ sent stored c v :=
  ⟨h.keeps.trans hkeeps, hgrants.trans h.grants, hcontents.trans h.contents,
    hmemory.trans h.memory⟩

/-- A write moves `n` more bytes to the registers. -/
theorem send {offset n : Nat} (h : s.Reached request b₀ u₀ offset offset b u)
    (hwrite : request.direction = .write) (hkeeps : s.bus.Keeps s.Failed b c)
    (hgrants : s.Grants v = s.Grants u)
    (hcontents : s.contents c = (s.contents b).patch (request.register.toNat + offset)
      ((s.memory u).read (request.buffer.toNat + offset) n))
    (hmemory : s.memory v = s.memory u) (stored : Nat) :
    s.Reached request b₀ u₀ (offset + n) stored c v := by
  have hsame : s.memory u = s.memory u₀ := by
    rw [h.memory, Request.memoryAfter_of_write _ _ hwrite]
  refine ⟨h.keeps.trans hkeeps, hgrants.trans h.grants, ?_, ?_⟩
  · rw [hcontents, h.contents, hsame, Request.registersAfter_add _ _ hwrite]
  · rw [hmemory, hsame, Request.memoryAfter_of_write _ _ hwrite]

/-- A read moves `n` more bytes to caller memory. -/
theorem store {offset n : Nat} (h : s.Reached request b₀ u₀ offset offset b u)
    (hread : request.direction = .read) (hkeeps : s.bus.Keeps s.Failed b c)
    (hgrants : s.Grants v = s.Grants u) (hcontents : s.contents c = s.contents b)
    (hmemory : s.memory v = (s.memory u).patch (request.buffer.toNat + offset)
      ((s.contents b).read (request.register.toNat + offset) n)) (sent : Nat) :
    s.Reached request b₀ u₀ sent (offset + n) c v := by
  have hsame : s.contents b = s.contents b₀ := by
    rw [h.contents, Request.registersAfter_of_read _ _ hread]
  refine ⟨h.keeps.trans hkeeps, hgrants.trans h.grants, ?_, ?_⟩
  · rw [hcontents, hsame, Request.registersAfter_of_read _ _ hread]
  · rw [hmemory, h.memory, hsame, Request.memoryAfter_add _ _ hread]

/-- A write leaves caller memory as it was. -/
theorem of_write {sent stored : Nat} (h : s.Reached request b₀ u₀ sent stored b u)
    (hwrite : request.direction = .write) :
    s.contents b = (s.contents b₀).patch request.register.toNat
        ((s.memory u₀).read request.buffer.toNat sent) ∧
      s.memory u = s.memory u₀ := by
  have hcontents := h.contents
  have hmemory := h.memory
  simp only [Request.registersAfter, Request.memoryAfter, hwrite] at hcontents hmemory
  exact ⟨hcontents, hmemory⟩

/-- A read leaves the registers as they were. -/
theorem of_read {sent stored : Nat} (h : s.Reached request b₀ u₀ sent stored b u)
    (hread : request.direction = .read) :
    s.contents b = s.contents b₀ ∧
      s.memory u = (s.memory u₀).patch request.buffer.toNat
        ((s.contents b₀).read request.register.toNat stored) := by
  have hcontents := h.contents
  have hmemory := h.memory
  simp only [Request.registersAfter, Request.memoryAfter, hread] at hcontents hmemory
  exact ⟨hcontents, hmemory⟩

end Reached

theorem Fits.of_keeps (h : s.Fits request b) (hkeeps : s.bus.Keeps s.Failed b c) :
    s.Fits request c :=
  ⟨hkeeps.chunkSize ▸ h.chunkSize_pos, hkeeps.addressLimit ▸ h.addressLimit_le,
    hkeeps.addressLimit ▸ h.span_le⟩

end Setting

/-! ### One block -/

/-- A block of the request, with the register and the address at which it starts. -/
structure Request.IsBlock (request : Request) (register : UInt16) (address : UInt64)
    (block : Span) : Prop where
  register_eq : register.toNat = request.register.toNat + block.offset
  address_eq : address.toNat = request.buffer.toNat + block.offset
  dvd : stagingSize ∣ block.offset
  pos : 0 < block.length
  le_stagingSize : block.length ≤ stagingSize
  le_length : block.offset + block.length ≤ request.length.toNat

namespace Setting

open Endpoint

variable {β μ ε : Type} {s : Setting β μ ε} {request : Request} {b₀ b : β} {u₀ u : μ}
  {register : UInt16} {address : UInt64} {block : Span}

/-- The offset of a failed chunk in its block becomes that in its request. -/
theorem wholeTransfer_bus {base offset : Nat} (direction : Direction) (e : ε)
    (hlt : base + offset < request.length.toNat) :
    wholeTransfer base (.error (.bus direction offset e))
      = .error (.access (.bus direction (base + offset) e)) := by
  have hlength : request.length.toNat < UInt64.size :=
    Nat.lt_trans request.length.toNat_lt (by decide)
  have hlt' : offset + base < AccessError.offsetLimit := by
    rw [AccessError.offsetLimit]
    omega
  simp only [wholeTransfer, AccessError.offsetBy, if_pos hlt', Nat.add_comm base]

/-- Up to a failure inside of a block, whole blocks were stored. -/
theorem stored_eq {offset n : Nat} (hdvd : stagingSize ∣ offset) (hlt : n < stagingSize) :
    stagingSize * ((offset + n) / stagingSize) = offset := by
  obtain ⟨q, rfl⟩ := hdvd
  rw [Nat.mul_add_div (by decide), Nat.div_eq_of_lt hlt, Nat.add_zero]

theorem sendBlock_progress (hwrite : request.direction = .write) (hfits : s.Fits request b₀)
    (hblock : request.IsBlock register address block)
    (hreached : s.Reached request b₀ u₀ block.offset block.offset b u) (staging : Staging)
    (log : List (Event ε)) :
    ∃ outcome staging' c v events,
      sendBlock s.tracedBus s.tracedBoundary register address block staging ((b, u), log)
          = ⟨outcome, (staging', ((c, v), log ++ events))⟩ ∧
        s.Progress request b₀ u₀ block.offset (block.offset + block.length) outcome
          (Event.busCalls events) c v := by
  obtain ⟨offset, length⟩ := block
  obtain ⟨hregister, haddress, hdvd, hpos, hle, hlength⟩ := hblock
  simp only at hregister haddress hdvd hpos hle hlength hreached ⊢
  obtain ⟨answer, v, hcopy, hmemory, hgrants, hends⟩ := s.honors.copyIn address length u
  -- The block is fetched from caller memory first; if that fails, the bus is not called.
  rcases hends with ⟨bytes, rfl, hbytes⟩ | ⟨e, rfl, hdenied⟩
  · have hsize : bytes.toList.length = length := by rw [hbytes, Contents.length_read]
    have hfits' := hfits.of_keeps hreached.keeps
    have hspan := hfits'.span_le
    obtain ⟨outcome, c, calls, reached, hrun, haccess, hkeeps, hok, hcontents⟩ :=
      s.serves.write_traced register bytes.toList b (log ++ [.copyIn address length none])
        hfits'.chunkSize_pos hfits'.addressLimit_le (by omega)
    refine ⟨wholeTransfer offset outcome, staging.put bytes.toList, c, v,
      .copyIn address length none :: calls.map .bus, ?_, ?_⟩
    · exact sendBlock_traced_of_ok hle hcopy hrun
    · have hcalls : Event.busCalls (.copyIn address length none :: calls.map .bus) = calls :=
        Event.busCalls_map_bus calls
      rw [hcalls]
      rw [hbytes, haddress, hregister] at hcontents
      rw [hsize, hregister, ← hwrite] at haccess
      cases haccess with
      | finished hadvances =>
        refine .finished (by rwa [← Nat.add_assoc]) ?_
        rw [Contents.take_read _ _ (Nat.le_refl _)] at hcontents
        exact hreached.send hwrite hkeeps hgrants hcontents hmemory _
      | @failed calls call e _ hadvances hdirection hlast houtcome _ hlt =>
        have hinside : offset + reached < request.length.toNat := by omega
        rw [wholeTransfer_bus _ _ hinside]
        -- A part of the block has reached the registers.
        rw [Contents.take_read _ _ (Nat.le_of_lt hlt)] at hcontents
        refine .failed (by rwa [← Nat.add_assoc]) hdirection (by rw [hlast, Nat.add_assoc]) houtcome
          (by omega) (by omega) (hok.resolve_left fun h => by cases h) ?_
        exact hreached.send hwrite hkeeps hgrants hcontents hmemory _
  · refine ⟨.error (.buffer e), staging, b, v, [.copyIn address length (some e)], ?_, ?_⟩
    · exact sendBlock_traced_of_error hle hcopy
    · refine .refused (.nil _) (Nat.le_refl _) hdvd (Nat.le_refl _) (by omega) (.inr ?_)
        (hreached.keep (.refl ..) hgrants rfl hmemory)
      exact ⟨address, length, haddress, hlength, hreached.grants ▸ hdenied⟩

theorem fetchBlock_progress (hread : request.direction = .read) (hfits : s.Fits request b₀)
    (hblock : request.IsBlock register address block)
    (hreached : s.Reached request b₀ u₀ block.offset block.offset b u) (staging : Staging)
    (log : List (Event ε)) :
    ∃ outcome staging' c v events,
      fetchBlock s.tracedBus s.tracedBoundary register address block staging ((b, u), log)
          = ⟨outcome, (staging', ((c, v), log ++ events))⟩ ∧
        s.Progress request b₀ u₀ block.offset (block.offset + block.length) outcome
          (Event.busCalls events) c v := by
  obtain ⟨offset, length⟩ := block
  obtain ⟨hregister, haddress, hdvd, hpos, hle, hlength⟩ := hblock
  simp only at hregister haddress hdvd hpos hle hlength hreached ⊢
  have hsize : (staging.front length).length = length := staging.length_front hle
  have hfits' := hfits.of_keeps hreached.keeps
  have hspan := hfits'.span_le
  obtain ⟨outcome, filled, c, calls, reached, hrun, haccess, hkeeps, hok, hcontents, hfilled⟩ :=
    s.serves.read_traced register (staging.front length) b log hfits'.chunkSize_pos
      hfits'.addressLimit_le (by omega)
  rw [hsize, hregister, ← hread] at haccess
  rw [hsize, hregister] at hfilled
  cases haccess with
  | finished hadvances =>
    have hfilled := hfilled rfl
    have hfilledSize : filled.length = length := by rw [hfilled, Contents.length_read]
    have hfront : (staging.put filled).front length = filled :=
      staging.front_put_of_length hfilledSize hle
    obtain ⟨answer, v, hcopy, hgrants, hends⟩ :=
      s.honors.copyOut address ((staging.put filled).front length) u
    refine ⟨copyEnding answer, staging.put filled, c, v, calls.map .bus
        ++ [.copyOut address ((staging.put filled).front length) (failureOf answer)],
      ?_, ?_⟩
    · exact fetchBlock_traced_of_ok hrun hcopy
    · rw [Event.busCalls_append, Event.busCalls_map_bus, Event.busCalls_copyOut, List.append_nil]
      rw [hfront] at hends
      rcases hends with ⟨rfl, hmemory⟩ | ⟨e, rfl, hmemory, hdenied⟩
      · refine .finished (by rwa [← Nat.add_assoc]) ?_
        rw [hfilled, haddress] at hmemory
        exact hreached.store hread hkeeps hgrants hcontents hmemory _
      · rw [Nat.add_assoc request.register.toNat offset length] at hadvances
        refine .refused hadvances (by omega) hdvd (Nat.le_refl _) (by omega) (.inr ?_)
          (hreached.keep hkeeps hgrants hcontents hmemory)
        exact ⟨address, length, haddress, hlength, by rwa [hfilledSize, hreached.grants] at hdenied⟩
  | @failed calls call e _ hadvances hdirection hlast houtcome _ hlt =>
    have hinside : offset + reached < request.length.toNat := by omega
    refine ⟨wholeTransfer offset (.error (.bus request.direction reached e)), staging.put filled, c,
      u, (calls ++ [call]).map .bus, ?_, ?_⟩
    · exact fetchBlock_traced_of_ne hrun Outcome.error_ne_ok u
    · rw [Event.busCalls_map_bus, wholeTransfer_bus _ _ hinside]
      refine .failed (by rwa [← Nat.add_assoc]) hdirection (by rw [hlast, Nat.add_assoc]) houtcome
        (by omega) (by omega) (hok.resolve_left fun h => by cases h) ?_
      rw [stored_eq hdvd (by omega)]
      exact hreached.store (n := 0) hread hkeeps rfl hcontents
        (by rw [Contents.read_zero, Contents.patch_nil]) _

theorem moveBlock_progress (hfits : s.Fits request b₀)
    (hblock : request.IsBlock register address block)
    (hreached : s.Reached request b₀ u₀ block.offset block.offset b u) (staging : Staging)
    (log : List (Event ε)) :
    ∃ outcome staging' c v events,
      moveBlock s.tracedBus s.tracedBoundary request.direction register address block staging
          ((b, u), log) = ⟨outcome, (staging', ((c, v), log ++ events))⟩ ∧
        s.Progress request b₀ u₀ block.offset (block.offset + block.length) outcome
          (Event.busCalls events) c v := by
  rcases hdirection : request.direction with _ | _
  · rw [moveBlock_read hblock.le_stagingSize]
    exact fetchBlock_progress hdirection hfits hblock hreached staging log
  · rw [moveBlock_write hblock.le_stagingSize]
    exact sendBlock_progress hdirection hfits hblock hreached staging log

/-! ### All blocks -/

namespace Progress

variable {start mid stop : Nat} {outcome : Outcome (RequestError ε) Unit}
  {calls more : List (BusCall ε)}

/-- Blocks that failed or were refused end the whole run. -/
theorem stop_early (h : s.Progress request b₀ u₀ start mid outcome calls b u)
    (houtcome : outcome ≠ .ok ()) (hle : mid ≤ stop) :
    s.Progress request b₀ u₀ start stop outcome calls b u := by
  cases h with
  | finished => exact absurd rfl houtcome
  | failed hcalls hdirection hregister hlast hstart hstop hfailed hreached =>
    exact .failed hcalls hdirection hregister hlast hstart (by omega) hfailed hreached
  | refused hcalls hreached hdvd hstart hstop hrefusable hstate =>
    exact .refused hcalls hreached hdvd hstart (by omega) hrefusable hstate

/-- Blocks that are finished are followed by the others. -/
theorem append (hcalls : Advances request.direction (request.register.toNat + start) calls
      (request.register.toNat + mid)) (hle : start ≤ mid)
    (h : s.Progress request b₀ u₀ mid stop outcome more b u) :
    s.Progress request b₀ u₀ start stop outcome (calls ++ more) b u := by
  cases h with
  | finished hmore hreached => exact .finished (hcalls.append hmore) hreached
  | failed hmore hdirection hregister hlast hstart hstop hfailed hreached =>
    rw [← List.append_assoc]
    exact .failed (hcalls.append hmore) hdirection hregister hlast (by omega) hstop hfailed
      hreached
  | refused hmore hreached hdvd hstart hstop hrefusable hstate =>
    exact .refused (hcalls.append hmore) hreached hdvd (by omega) hstop hrefusable hstate

end Progress

theorem moveBlocks_progress (hfits : s.Fits request b₀) {start stop : Nat} {blocks : List Span}
    (htiles : Span.Tiles stagingSize start blocks stop) (hstop : stop ≤ request.length.toNat)
    (hreached : s.Reached request b₀ u₀ start start b u) (staging : Staging)
    (log : List (Event ε)) :
    ∃ outcome staging' c v events,
      moveBlocks s.tracedBus s.tracedBoundary request blocks staging ((b, u), log)
          = ⟨outcome, (staging', ((c, v), log ++ events))⟩ ∧
        s.Progress request b₀ u₀ start stop outcome (Event.busCalls events) c v := by
  -- The invariant is `Reached`, with both counts at the start of the block at hand.
  induction htiles generalizing b u staging log with
  | nil offset =>
    refine ⟨.ok (), staging, b, u, [], ?_, .finished (.nil _) hreached⟩
    rw [moveBlocks, List.append_nil]
  | @cons offset length stop blocks hdvd hpos hle htail ih =>
    have hmid := htail.le
    have hspan := hfits.span_le
    obtain ⟨register, hregister, hregisterNat⟩ :=
      RegisterBus.Serves.registerAt_piece request.register offset (by omega) hfits.addressLimit_le
    rcases Nat.lt_or_ge (request.buffer.toNat + offset) UInt64.size with hlt | hge
    · obtain ⟨address, haddress, haddressNat⟩ := addressAt_of_lt hlt
      have hblock : request.IsBlock register address ⟨offset, length⟩ :=
        ⟨hregisterNat, haddressNat, hdvd, hpos, hle, by simp only; omega⟩
      obtain ⟨outcome, staging', c, v, events, hrun, hprogress⟩ :=
        moveBlock_progress hfits hblock hreached staging log
      simp only [moveBlocks, hregister, haddress, hrun]
      cases outcome with
      | ok =>
        cases hprogress with
        | finished hcalls hreached' =>
          obtain ⟨outcome, staging'', c', v', events', hrest, hprogress'⟩ :=
            ih hstop hreached' staging' (log ++ events)
          refine ⟨outcome, staging'', c', v', events ++ events', ?_, ?_⟩
          · rw [Run.andThen_ok, hrest, List.append_assoc]
          · rw [Event.busCalls_append]
            exact hprogress'.append hcalls (Nat.le_add_right _ _)
      -- A block that was not finished is the last one.
      | error e =>
        exact ⟨_, _, _, _, events, rfl, hprogress.stop_early (fun h => by cases h) hmid⟩
      | trap t =>
        exact ⟨_, _, _, _, events, rfl, hprogress.stop_early (fun h => by cases h) hmid⟩
    -- The address of the block overflows, though the whole range was checked.
    · refine ⟨.error (.buffer ⟨request.buffer, request.length.toNat⟩), staging, b, u, [], ?_,
        .refused (.nil _) (Nat.le_refl _) hdvd (Nat.le_refl _) (by omega) (.inl hge) hreached⟩
      simp only [moveBlocks, hregister, addressAt_of_le hge, List.append_nil]

/-! ### A whole request -/

/-- How a request ends. -/
inductive Ending (s : Setting β μ ε) (request : Request) (b₀ : β) (u₀ : μ) :
    Outcome (RequestError ε) Unit → List (BusCall ε) → β → μ → Prop
  | outOfRange : s.bus.addressLimit b₀ < request.register.toNat + request.length.toNat →
      Ending s request b₀ u₀
        (.error (.access (.outOfRange request.register request.length.toNat))) [] b₀ u₀
  | inaccessible {cause : CopyError} {u : μ} :
      request.register.toNat + request.length.toNat ≤ s.bus.addressLimit b₀ →
      request.length ≠ 0 →
      s.boundary.check request.buffer request.length.toNat u₀ = (.error cause, u) →
      s.memory u = s.memory u₀ → s.Grants u = s.Grants u₀ →
      Ending s request b₀ u₀ (.error (.buffer cause)) [] b₀ u
  | moved {outcome : Outcome (RequestError ε) Unit} {calls : List (BusCall ε)} {b : β} {u : μ} :
      request.register.toNat + request.length.toNat ≤ s.bus.addressLimit b₀ →
      (request.length = 0 ∨
        (s.boundary.check request.buffer request.length.toNat u₀).1 = .ok ()) →
      s.Progress request b₀ u₀ 0 request.length.toNat outcome calls b u →
      Ending s request b₀ u₀ outcome calls b u

theorem execute_ending (s : Setting β μ ε) (request : Request) (staging : Staging) {b : β}
    (u : μ) (log : List (Event ε)) (hchunk : 0 < s.bus.chunkSize b)
    (hspace : s.bus.addressLimit b ≤ registerSpace) :
    ∃ outcome staging' c v events,
      execute s.tracedBus s.tracedBoundary request staging ((b, u), log)
          = ⟨outcome, (staging', ((c, v), log ++ events))⟩ ∧
        s.Ending request b u outcome (Event.busCalls events) c v := by
  rcases Nat.lt_or_ge (s.tracedBus.addressLimit ((b, u), log))
    (request.register.toNat + request.length.toNat) with hlt | hspan
  · refine ⟨_, staging, b, u, [], ?_, .outOfRange hlt⟩
    rw [execute_of_lt s.tracedBus _ staging hlt, List.append_nil]
  by_cases hempty : request.length = 0
  · have hzero : request.length.toNat = 0 := by rw [hempty]; rfl
    refine ⟨.ok (), staging, b, u, [], ?_, .moved hspan (.inl hempty) ?_⟩
    · rw [execute_of_zero s.tracedBus _ staging hspan hzero, List.append_nil]
    · rw [hzero]
      exact .finished (.nil _) (.refl ..)
  have hne : request.length.toNat ≠ 0 := fun h => hempty (UInt16.toNat_inj.mp h)
  obtain ⟨answer, v, hcheck, hmemory, hgrants⟩ :=
    s.honors.check request.buffer request.length.toNat u
  have hnoted := Boundary.check_traced_after hcheck b log
  cases answer with
  | error cause =>
    refine ⟨.error (.buffer cause), staging, b, v,
      [.check request.buffer request.length.toNat (some cause)], ?_,
      .inaccessible hspan hempty hcheck hmemory hgrants⟩
    exact execute_of_check_error s.tracedBus _ staging hspan hne hnoted
  | ok _ =>
    have hreached : s.Reached request b u 0 0 b v :=
      (Reached.refl s request b u).keep (.refl ..) hgrants rfl hmemory
    obtain ⟨outcome, staging', c, v', events, hrun, hprogress⟩ :=
      moveBlocks_progress ⟨hchunk, hspace, hspan⟩ (Span.tiles_split (by decide) _)
        (Nat.le_refl _) hreached staging
        (log ++ [.check request.buffer request.length.toNat none])
    refine ⟨outcome, staging', c, v', .check request.buffer request.length.toNat none :: events,
      ?_, .moved hspan (.inr (by rw [hcheck])) hprogress⟩
    rw [List.append_cons]
    exact (execute_of_check s.tracedBus _ staging hspan hne hnoted).trans hrun

/-- The same without the recorder: the ending and the calls of a request. -/
theorem ending_execute (s : Setting β μ ε) (request : Request) (staging : Staging) {b : β} (u : μ)
    (hchunk : 0 < s.bus.chunkSize b) (hspace : s.bus.addressLimit b ≤ registerSpace) :
    s.Ending request b u
      (execute (s.bus.beside μ) (s.boundary.after β) request staging (b, u)).outcome
      (Event.busCalls
        (Endpoint.calls (s.bus.beside μ) (s.boundary.after β) request staging (b, u)))
      (execute (s.bus.beside μ) (s.boundary.after β) request staging (b, u)).world.2.1
      (execute (s.bus.beside μ) (s.boundary.after β) request staging (b, u)).world.2.2 := by
  obtain ⟨outcome, staging', c, v, events, hrun, hending⟩ :=
    s.execute_ending request staging u [] hchunk hspace
  obtain ⟨houtcome, hworld⟩ :=
    Endpoint.execute_traced (s.bus.beside μ) (s.boundary.after β) request staging (b, u)
  rw [← houtcome, ← hworld, Endpoint.calls]
  rw [tracedBus, tracedBoundary] at hrun
  rw [hrun]
  exact hending

end Setting

end SensorLink

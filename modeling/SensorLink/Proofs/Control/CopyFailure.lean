/-
Copies that fail in the middle of a request.

A boundary may accept a range and then fail to copy a part of it.  The request has moved whole
blocks by then, and ends with the copy.  What else it has done depends on its direction: a
write fetches a block from the caller before it calls the bus, and a read calls the bus
before it hands a block out.

* `Request.copyStep`, `Request.beforeCopy` — the copy of a block, and the calls before it;
* `Request.BlockCalls` — how the calls of a block go;
* `moveBlock_calls` — every block goes one of these ways;
* `Setting.Copies` — how some blocks go, and how far they have come;
* `Copies.append`, `Copies.stop` — blocks after others;
* `moveBlocks_copies` — the blocks of a request;
* `CopyFailure`, `copy_failure_midway` — what a copy that fails leaves behind.
-/
import SensorLink.Bench.CallerStore
import SensorLink.Proofs.Control.Stretches

namespace SensorLink

variable {β μ ε : Type}

/-! ### The calls of a block -/

namespace Request

/-- The copy of a block. -/
def copyStep (request : Request) (block : Span) : Step :=
  .copy request.direction (request.buffer.toNat + block.offset) block.length

/-- The calls of a block that come before its copy. -/
def beforeCopy (request : Request) (chunkSize : Nat) (block : Span) : List Step :=
  match request.direction with
  | .write => []
  | .read => request.chunkSteps chunkSize block

/-- How the calls of a block go: by plan to the end; up to a stop that is not due to the
boundary; or up to the copy, which fails. -/
inductive BlockCalls (request : Request) (chunkSize : Nat) (block : Span) :
    Outcome (RequestError ε) Unit → List (Event ε) → Prop
  | moved {events : List (Event ε)} :
    (∀ event ∈ events, event.failure? = none) →
    events.map Event.step = request.blockSteps chunkSize block →
    BlockCalls request chunkSize block (.ok ()) events
  | stopped {outcome : Outcome (RequestError ε) Unit} {events : List (Event ε)} :
    outcome ≠ .ok () → (∀ event ∈ events, event.failure? = none) →
    BlockCalls request chunkSize block outcome events
  | copyFailed {earlier : List (Event ε)} {event : Event ε} {e : CopyError} :
    (∀ event ∈ earlier, event.failure? = none) →
    earlier.map Event.step = request.beforeCopy chunkSize block →
    event.step = request.copyStep block → event.failure? = some e →
    BlockCalls request chunkSize block (.error (.buffer e)) (earlier ++ [event])

end Request

theorem Event.failure?_of_mem_map_bus {calls : List (BusCall ε)} {event : Event ε}
    (hmem : event ∈ calls.map Event.bus) : event.failure? = none := by
  obtain ⟨call, _, rfl⟩ := List.mem_map.mp hmem
  rfl

namespace Endpoint

variable {bus : RegisterBus β ε} {w : β} {request : Request} {block : Span} {register : UInt16}
  {address : UInt64}

theorem sendBlock_calls (hsteady : bus.Steady) (boundary : Boundary μ)
    (hchunk : 0 < bus.chunkSize w) (hspace : bus.addressLimit w ≤ registerSpace)
    (hdirection : request.direction = .write) (hblock : request.IsBlock register address block)
    (hlimit : request.register.toNat + (block.offset + block.length) ≤ bus.addressLimit w)
    (staging : Staging) (m : μ) (log : List (Event ε)) :
    ∃ outcome staging' v m' events,
      sendBlock (bus.beside μ).traced ((boundary.after β).traced ε) register address block staging
          ((w, m), log) = ⟨outcome, (staging', ((v, m'), log ++ events))⟩ ∧
        request.BlockCalls (bus.chunkSize w) block outcome events := by
  obtain ⟨⟨answer, m'⟩, hcopy⟩ : ∃ run, boundary.copyIn address block.length m = run := ⟨_, rfl⟩
  cases answer with
  | error e =>
    have hbefore : request.beforeCopy (bus.chunkSize w) block = [] := by
      simp only [Request.beforeCopy, hdirection]
    have hstep : Event.step (.copyIn address block.length (some e) : Event ε)
        = request.copyStep block := by
      rw [Request.copyStep, hdirection, ← hblock.address_eq]
      rfl
    refine ⟨.error (.buffer e), staging, w, m', [] ++ [.copyIn address block.length (some e)], ?_,
      .copyFailed (by simp) hbefore.symm hstep rfl⟩
    exact sendBlock_traced_of_error hblock.le_stagingSize hcopy
  | ok bytes =>
    have hsize : bytes.toList.length = block.length := bytes.length_toList
    obtain ⟨inner, filled, v, calls, hrun, hwhole, hstaged, hv, hv'⟩ :=
      access_staged hsteady hchunk hspace (hsize ▸ hlimit) hblock.register_eq
    rw [hdirection] at hrun
    rw [hsize] at hstaged
    have hwrite : ∀ log, bus.traced.write register bytes.toList (w, log)
        = ⟨inner, (v, log ++ calls.map .bus)⟩ :=
      fun log => RegisterBus.write_of_access (hrun log)
    have hquiet : ∀ event ∈ .copyIn address block.length none :: calls.map Event.bus,
        event.failure? = none := by
      rw [List.forall_mem_cons]
      exact ⟨rfl, fun _ => Event.failure?_of_mem_map_bus⟩
    refine ⟨wholeTransfer block.offset inner, staging.put bytes.toList, v, m',
      .copyIn address block.length none :: calls.map .bus, ?_, ?_⟩
    · exact sendBlock_traced_of_ok hblock.le_stagingSize hcopy (hwrite _)
    by_cases hok : inner = .ok ()
    · subst hok
      refine .moved hquiet ?_
      rw [List.map_cons, hstaged.steps rfl, Request.blockSteps_write _ hdirection,
        ← hblock.address_eq]
      rfl
    · exact .stopped (fun h => hok (wholeTransfer_eq_ok h)) hquiet

theorem fetchBlock_calls (hsteady : bus.Steady) (boundary : Boundary μ)
    (hchunk : 0 < bus.chunkSize w) (hspace : bus.addressLimit w ≤ registerSpace)
    (hdirection : request.direction = .read) (hblock : request.IsBlock register address block)
    (hlimit : request.register.toNat + (block.offset + block.length) ≤ bus.addressLimit w)
    (staging : Staging) (m : μ) (log : List (Event ε)) :
    ∃ outcome staging' v m' events,
      fetchBlock (bus.beside μ).traced ((boundary.after β).traced ε) register address block staging
          ((w, m), log) = ⟨outcome, (staging', ((v, m'), log ++ events))⟩ ∧
        request.BlockCalls (bus.chunkSize w) block outcome events := by
  have hsize : (staging.front block.length).length = block.length :=
    staging.length_front hblock.le_stagingSize
  obtain ⟨inner, filled, v, calls, hrun, hwhole, hstaged, hv, hv'⟩ :=
    access_staged hsteady hchunk hspace (hsize.symm ▸ hlimit) hblock.register_eq
  rw [hdirection] at hrun
  rw [hsize] at hstaged
  have hread : ∀ log, bus.traced.read register (staging.front block.length) (w, log)
      = ⟨inner, (filled, (v, log ++ calls.map .bus))⟩ := hrun
  by_cases hok : inner = .ok ()
  · subst hok
    have hput : ((staging.put filled).front block.length).length = block.length :=
      (staging.put filled).length_front hblock.le_stagingSize
    have hstep : ∀ failure, Event.step
        (.copyOut address ((staging.put filled).front block.length) failure : Event ε)
          = request.copyStep block := by
      intro failure
      rw [Request.copyStep, hdirection, ← hblock.address_eq, Event.step, hput]
    obtain ⟨⟨answer, m'⟩, hcopy⟩ : ∃ run,
      boundary.copyOut address ((staging.put filled).front block.length) m = run := ⟨_, rfl⟩
    refine ⟨_, _, _, _, _, fetchBlock_traced_of_ok (hread log) hcopy, ?_⟩
    cases answer with
    | error e =>
      refine .copyFailed (fun _ => Event.failure?_of_mem_map_bus) ?_ (hstep _) rfl
      rw [hstaged.steps rfl, Request.beforeCopy, hdirection]
    | ok =>
      refine .moved ?_ ?_
      · rw [List.forall_mem_append]
        exact ⟨fun _ => Event.failure?_of_mem_map_bus, by simp [Event.failure?, failureOf]⟩
      · rw [List.map_append, hstaged.steps rfl, List.map_singleton, hstep,
          Request.blockSteps_read _ hdirection, Request.copyStep, hdirection]
  · refine ⟨wholeTransfer block.offset inner, staging.put filled, v, m, calls.map .bus, ?_,
      .stopped (fun h => hok (wholeTransfer_eq_ok h)) fun _ => Event.failure?_of_mem_map_bus⟩
    exact fetchBlock_traced_of_ne (hread log) hok m

/-- Every block goes one of the ways. -/
theorem moveBlock_calls (hsteady : bus.Steady) (boundary : Boundary μ)
    (hchunk : 0 < bus.chunkSize w) (hspace : bus.addressLimit w ≤ registerSpace)
    (hblock : request.IsBlock register address block)
    (hlimit : request.register.toNat + (block.offset + block.length) ≤ bus.addressLimit w)
    (staging : Staging) (m : μ) (log : List (Event ε)) :
    ∃ outcome staging' v m' events,
      moveBlock (bus.beside μ).traced ((boundary.after β).traced ε) request.direction register
          address block staging ((w, m), log)
        = ⟨outcome, (staging', ((v, m'), log ++ events))⟩ ∧
      request.BlockCalls (bus.chunkSize w) block outcome events := by
  cases hdirection : request.direction with
  | write =>
    rw [moveBlock_write hblock.le_stagingSize]
    exact sendBlock_calls hsteady boundary hchunk hspace hdirection hblock hlimit staging m log
  | read =>
    rw [moveBlock_read hblock.le_stagingSize]
    exact fetchBlock_calls hsteady boundary hchunk hspace hdirection hblock hlimit staging m log

end Endpoint

/-! ### The blocks of a request -/

/-- The call has done what it was asked for. -/
structure Event.Succeeded (event : Event ε) : Prop where
  boundary : event.failure? = none
  bus : ∀ call, event.busCall? = some call → call.outcome = .ok ()

theorem Event.succeeded_of_calls {events : List (Event ε)}
    (hquiet : ∀ event ∈ events, event.failure? = none)
    (hok : ∀ call ∈ busCalls events, call.outcome = .ok ()) : ∀ event ∈ events, event.Succeeded :=
  fun event hmem => ⟨hquiet event hmem, fun call hcall =>
    hok call (List.mem_filterMap.mpr ⟨event, hmem, hcall⟩)⟩

namespace Setting

open Endpoint (moveBlock moveBlocks execute)

variable (s : Setting β μ ε) (request : Request) (b₀ : β) (u₀ : μ)

/-- How some blocks go, the last of which ends at `stop`: all are moved; or something other
than the boundary stops them; or the copy of a block fails, and all that came before it has
gone by plan. -/
inductive Copies (blocks : List Span) (stop : Nat) :
    Outcome (RequestError ε) Unit → List (Event ε) → β → μ → Prop
  | moved {events : List (Event ε)} {b : β} {u : μ} :
    (∀ event ∈ events, event.Succeeded) →
    events.map Event.step = blocks.flatMap (request.blockSteps (s.bus.chunkSize b₀)) →
    s.Reached request b₀ u₀ stop stop b u → Copies blocks stop (.ok ()) events b u
  | stopped {outcome : Outcome (RequestError ε) Unit} {events : List (Event ε)} {b : β} {u : μ} :
    outcome ≠ .ok () → (∀ event ∈ events, event.failure? = none) →
    Copies blocks stop outcome events b u
  | copyFailed (before after : List Span) {block : Span} {earlier : List (Event ε)}
      {event : Event ε} {e : CopyError} {b : β} {u : μ} :
    blocks = before ++ block :: after → (∀ event ∈ earlier, event.Succeeded) →
    earlier.map Event.step = before.flatMap (request.blockSteps (s.bus.chunkSize b₀))
      ++ request.beforeCopy (s.bus.chunkSize b₀) block →
    event.step = request.copyStep block → event.failure? = some e →
    s.Reached request b₀ u₀ block.offset block.offset b u →
    Copies blocks stop (.error (.buffer e)) (earlier ++ [event]) b u

variable {s request b₀ u₀} {blocks more : List Span} {mid stop : Nat}
  {outcome : Outcome (RequestError ε) Unit} {events others : List (Event ε)} {b c : β} {u v : μ}

theorem Copies.reached (h : s.Copies request b₀ u₀ blocks stop (.ok ()) events b u) :
    s.Reached request b₀ u₀ stop stop b u := by
  obtain ⟨_, _, hreached⟩ | ⟨hne, _⟩ | _ := h
  · exact hreached
  · exact absurd rfl hne

/-- Blocks that are moved, and the blocks after them. -/
theorem Copies.append (h : s.Copies request b₀ u₀ blocks mid (.ok ()) events b u)
    (h' : s.Copies request b₀ u₀ more stop outcome others c v) :
    s.Copies request b₀ u₀ (blocks ++ more) stop outcome (events ++ others) c v := by
  obtain ⟨hfirst, hplan, _⟩ | ⟨hne, _⟩ | _ := h
  · cases h' with
    | moved hrest hplan' hreached =>
      refine .moved (List.forall_mem_append.mpr ⟨hfirst, hrest⟩) ?_ hreached
      rw [List.map_append, hplan, hplan', List.flatMap_append]
    | stopped hne hquiet =>
      exact .stopped hne
        (List.forall_mem_append.mpr ⟨fun event hmem => (hfirst event hmem).boundary, hquiet⟩)
    | copyFailed before after hmore hearlier hplan' hstep hfailure hreached =>
      rw [← List.append_assoc]
      refine .copyFailed (blocks ++ before) after ?_
        (List.forall_mem_append.mpr ⟨hfirst, hearlier⟩) ?_ hstep hfailure hreached
      · rw [hmore, List.append_assoc]
      · rw [List.map_append, hplan, hplan', List.flatMap_append, List.append_assoc]
  · exact absurd rfl hne

/-- Nothing follows blocks that are not moved. -/
theorem Copies.stop_early (h : s.Copies request b₀ u₀ blocks mid outcome events b u)
    (hne : outcome ≠ .ok ()) (more : List Span) (stop : Nat) :
    s.Copies request b₀ u₀ (blocks ++ more) stop outcome events b u := by
  cases h with
  | moved => exact absurd rfl hne
  | stopped _ hquiet => exact .stopped hne hquiet
  | copyFailed before after hblocks hearlier hplan hstep hfailure hreached =>
    refine .copyFailed before (after ++ more) ?_ hearlier hplan hstep hfailure hreached
    rw [hblocks, List.append_assoc, List.cons_append]

variable {register : UInt16} {address : UInt64} {block : Span}

/-- A block that is known to run in one way has come as far as every block does. -/
theorem progress_of_run (hfits : s.Fits request b₀)
    (hblock : request.IsBlock register address block)
    (hreached : s.Reached request b₀ u₀ block.offset block.offset b u) {staging staging' : Staging}
    {log : List (Event ε)}
    (h : moveBlock s.tracedBus s.tracedBoundary request.direction register address block staging
      ((b, u), log) = ⟨outcome, (staging', ((c, v), log ++ events))⟩) :
    s.Progress request b₀ u₀ block.offset (block.offset + block.length) outcome
      (Event.busCalls events) c v := by
  obtain ⟨_, _, _, _, more, hrun, hprogress⟩ := moveBlock_progress hfits hblock hreached staging log
  rw [h] at hrun
  simp only [Run.mk.injEq, Prod.mk.injEq, List.append_cancel_left_eq] at hrun
  obtain ⟨rfl, _, ⟨rfl, rfl⟩, rfl⟩ := hrun
  exact hprogress

/-- One block. -/
theorem moveBlock_copies (hfits : s.Fits request b₀)
    (hblock : request.IsBlock register address block)
    (hreached : s.Reached request b₀ u₀ block.offset block.offset b u) (staging : Staging)
    (log : List (Event ε)) :
    ∃ outcome staging' c v events,
      moveBlock s.tracedBus s.tracedBoundary request.direction register address block staging
          ((b, u), log) = ⟨outcome, (staging', ((c, v), log ++ events))⟩ ∧
        s.Copies request b₀ u₀ [block] (block.offset + block.length) outcome events c v := by
  have hfits' := hfits.of_keeps hreached.keeps
  have hlimit : request.register.toNat + (block.offset + block.length) ≤ s.bus.addressLimit b :=
    Nat.le_trans (Nat.add_le_add_left hblock.le_length _) hfits'.span_le
  obtain ⟨outcome, staging', c, v, events, hrun, hcalls⟩ :=
    Endpoint.moveBlock_calls s.serves.steady s.boundary hfits'.chunkSize_pos hfits'.addressLimit_le
      hblock hlimit staging u log
  have hprogress := progress_of_run hfits hblock hreached hrun
  refine ⟨outcome, staging', c, v, events, hrun, ?_⟩
  rw [hreached.keeps.chunkSize] at hcalls
  cases hcalls with
  | moved hquiet hplan =>
    obtain ⟨hadvances, hend⟩ | _ | _ := hprogress
    refine .moved (Event.succeeded_of_calls hquiet fun _ => hadvances.outcome_of_mem) ?_ hend
    rw [hplan, List.flatMap_singleton]
  | stopped hne hquiet => exact .stopped hne hquiet
  | @copyFailed earlier event e hquiet hplan hstep hfailure =>
    cases hprogress with
    | @refused _ _ n _ _ _ hadvances _ hdvd hstart hstop _ hend =>
      -- There is one multiple of the block size in a block, and that is where it starts.
      have hsize : stagingSize = 1024 := rfl
      have hle := hblock.le_stagingSize
      obtain ⟨q, hq⟩ := hdvd
      obtain ⟨q', hq'⟩ := hblock.dvd
      rw [hsize] at hle hq hq'
      obtain rfl : n = block.offset := by omega
      refine .copyFailed [] [] rfl (Event.succeeded_of_calls hquiet fun call hmem =>
        hadvances.outcome_of_mem ?_) hplan hstep hfailure hend
      rw [Event.busCalls_append]
      exact List.mem_append_left _ hmem

/-- All blocks. -/
theorem moveBlocks_copies (hfits : s.Fits request b₀) {start stop : Nat} {blocks : List Span}
    (htiles : Span.Tiles stagingSize start blocks stop) (hstop : stop ≤ request.length.toNat)
    (hreached : s.Reached request b₀ u₀ start start b u) (staging : Staging)
    (log : List (Event ε)) :
    ∃ outcome staging' c v events,
      moveBlocks s.tracedBus s.tracedBoundary request blocks staging ((b, u), log)
          = ⟨outcome, (staging', ((c, v), log ++ events))⟩ ∧
        s.Copies request b₀ u₀ blocks stop outcome events c v := by
  induction htiles generalizing b u staging log with
  | nil offset =>
    refine ⟨.ok (), staging, b, u, [], ?_, .moved (by simp) rfl hreached⟩
    rw [moveBlocks, List.append_nil]
  | @cons offset length stop blocks hdvd hpos hle htail ih =>
    have hmid := htail.le
    have hspan := hfits.span_le
    obtain ⟨register, hregister, hregisterNat⟩ :=
      RegisterBus.Serves.registerAt_piece request.register offset (by omega) hfits.addressLimit_le
    rcases Nat.lt_or_ge (request.buffer.toNat + offset) UInt64.size with hlt | hge
    · obtain ⟨address, haddress, haddressNat⟩ := addressAt_of_lt hlt
      have hblock : request.IsBlock register address ⟨offset, length⟩ :=
        ⟨hregisterNat, haddressNat, hdvd, hpos, hle, by simp only; omega⟩
      obtain ⟨outcome, staging', c, v, events, hrun, hcopies⟩ :=
        moveBlock_copies hfits hblock hreached staging log
      simp only [moveBlocks, hregister, haddress, hrun]
      by_cases hok : outcome = .ok ()
      · subst hok
        obtain ⟨outcome, staging'', c', v', others, hrest, hcopies'⟩ :=
          ih hstop hcopies.reached staging' (log ++ events)
        refine ⟨outcome, staging'', c', v', events ++ others, ?_, hcopies.append hcopies'⟩
        rw [Run.andThen_ok, hrest, List.append_assoc]
      · exact ⟨outcome, staging', c, v, events, Run.andThen_of_ne hok ..,
          hcopies.stop_early hok blocks stop⟩
    -- A block without an address is not copied.
    · refine ⟨.error (.buffer ⟨request.buffer, request.length.toNat⟩), staging, b, u, [], ?_,
        .stopped Outcome.error_ne_ok (by simp)⟩
      simp only [moveBlocks, hregister, addressAt_of_le hge, List.append_nil]

/-- A copy that fails is one of a block, if the request has got as far as its blocks. -/
theorem execute_copies (s : Setting β μ ε) (request : Request) (staging : Staging) {b : β} (u : μ)
    (hchunk : 0 < s.bus.chunkSize b) (hspace : s.bus.addressLimit b ≤ registerSpace) :
    ∃ outcome staging' c v events,
      execute s.tracedBus s.tracedBoundary request staging ((b, u), [])
          = ⟨outcome, (staging', ((c, v), events))⟩ ∧
        ((∀ event ∈ events, ∀ direction address length,
            event.step ≠ .copy direction address length) ∨
          ∃ rest, events = .check request.buffer request.length.toNat none :: rest ∧
            s.Copies request b u (Span.split stagingSize request.length.toNat)
              request.length.toNat outcome rest c v) := by
  rcases Nat.lt_or_ge (s.tracedBus.addressLimit ((b, u), []))
    (request.register.toNat + request.length.toNat) with hlt | hspan
  · refine ⟨.error (.access (.outOfRange request.register request.length.toNat)), staging, b, u,
      [], ?_, .inl (by simp)⟩
    exact Endpoint.execute_of_lt s.tracedBus _ staging hlt
  by_cases hzero : request.length.toNat = 0
  · refine ⟨.ok (), staging, b, u, [], ?_, .inl (by simp)⟩
    exact Endpoint.execute_of_zero s.tracedBus _ staging hspan hzero
  obtain ⟨answer, v, hcheck, hmemory, hgrants⟩ :=
    s.honors.check request.buffer request.length.toNat u
  have hnoted : s.tracedBoundary.check request.buffer request.length.toNat ((b, u), [])
      = (answer, ((b, v), [.check request.buffer request.length.toNat (failureOf answer)])) := by
    exact Boundary.check_traced_after hcheck b []
  cases answer with
  | error cause =>
    refine ⟨_, _, _, _, _, Endpoint.execute_of_check_error s.tracedBus _ staging hspan hzero hnoted,
      .inl ?_⟩
    simp [Event.step]
  | ok =>
    have hreached : s.Reached request b u 0 0 b v :=
      (Reached.refl s request b u).keep (.refl ..) hgrants rfl hmemory
    obtain ⟨outcome, staging', c, v', rest, hrun, hcopies⟩ :=
      moveBlocks_copies ⟨hchunk, hspace, hspan⟩ (Span.tiles_split (by decide) _) (Nat.le_refl _)
        hreached staging [.check request.buffer request.length.toNat none]
    refine ⟨outcome, staging', c, v', .check request.buffer request.length.toNat none :: rest, ?_,
      .inr ⟨rest, rfl, hcopies⟩⟩
    exact (Endpoint.execute_of_check s.tracedBus _ staging hspan hzero hnoted).trans hrun

end Setting

/-! ### What a failed copy leaves behind -/

/-- Block `j` of a request. -/
def Request.block (request : Request) (j : Nat) : Span :=
  ⟨stagingSize * j, min stagingSize (request.length.toNat - stagingSize * j)⟩

@[simp] theorem Request.offset_block (request : Request) (j : Nat) :
    (request.block j).offset = stagingSize * j := rfl

/-- A block of a request is known by the number of blocks before it. -/
theorem Request.block_of_split (request : Request) {before after : List Span} {block : Span}
    (h : Span.split stagingSize request.length.toNat = before ++ block :: after) :
    ∃ j, block = request.block j ∧ stagingSize * j < request.length.toNat ∧
      before = (Span.split stagingSize request.length.toNat).take j := by
  have hget : (Span.split stagingSize request.length.toNat)[before.length]? = some block := by
    rw [h, List.getElem?_append_right (Nat.le_refl _), Nat.sub_self]
    rfl
  obtain ⟨rfl, hlt⟩ := Span.getElem?_split (by decide) hget
  refine ⟨before.length, ?_, by rwa [Nat.mul_comm], by rw [h, List.take_left]⟩
  rw [Request.block, Nat.mul_comm]

/-- The copy of block `j` has failed with `e`, which ends the request. -/
structure CopyFailure (request : Request) (chunkSize : Nat) (j : Nat) (event : Event ε)
    (e : CopyError) (outcome : Outcome (RequestError ε) Unit) (events : List (Event ε))
    (registers registers' memory memory' : Contents) : Prop where
  /-- It is the copy of a block. -/
  lt_length : stagingSize * j < request.length.toNat
  step_eq : event.step = request.copyStep (request.block j)
  /-- The request reports the failure of the copy. -/
  outcome_eq : outcome = .error (.buffer e)
  /-- Nothing is called after the copy, and nothing has failed before. -/
  last : ∃ earlier, events = earlier ++ [event] ∧ ∀ event ∈ earlier, event.Succeeded
  /-- The blocks before block `j` have gone by plan, and so has what comes before its copy:
  nothing in a write, and the chunk calls of the block in a read. -/
  steps : events.map Event.step
    = .check request.buffer.toNat request.length.toNat
      :: ((Span.split stagingSize request.length.toNat).take j).flatMap
          (request.blockSteps chunkSize)
        ++ request.beforeCopy chunkSize (request.block j) ++ [request.copyStep (request.block j)]
  /-- A write has moved the blocks before block `j` to the registers. -/
  write : request.direction = .write →
    registers' = registers.patch request.register.toNat
        (memory.read request.buffer.toNat (stagingSize * j)) ∧
      memory' = memory
  /-- A read has moved the blocks before block `j` to the caller. -/
  read : request.direction = .read →
    registers' = registers ∧
      memory' = memory.patch request.buffer.toNat
        (registers.read request.register.toNat (stagingSize * j))

/-- Registers that are reached in chunks of `size` bytes, by calls that never fail. -/
def RegisterBus.faultless (size : Nat) : RegisterBus Contents Empty where
  chunkSize _ := size
  addressLimit _ := registerSpace
  readChunk register buffer registers :=
    ⟨.ok (), (registers.read register.toNat buffer.length, registers)⟩
  writeChunk register data registers := ⟨.ok (), registers.patch register.toNat data⟩
  length_readChunk _ _ _ := Contents.length_read ..

theorem RegisterBus.serves_faultless (size : Nat) :
    (faultless size).Serves (fun registers => registers) fun _ => False where
  readChunk _ _ _ _ := ⟨_, _, _, rfl, .refl .., rfl, .inl ⟨rfl, rfl⟩⟩
  writeChunk _ _ _ _ := ⟨_, _, rfl, ⟨rfl, rfl, id⟩, .inl ⟨rfl, rfl⟩⟩

/-- A caller on the bench copies a range as a whole or not at all, whatever its check says. -/
theorem Bench.CallerStore.honors_boundary :
    boundary.Honors (fun store => store.window.contents) fun _ _ _ => False where
  check address length store := by
    obtain ⟨window, gullible, checkFault, copyInFault, copyOutFault, log⟩ := store
    simp only [boundary, check]
    split_ifs <;> exact ⟨_, _, rfl, rfl, trivial⟩
  copyIn address length store := by
    cases hfails : (countdown store.copyInFault).1 with
    | true => exact ⟨_, _, copyIn_of_fails hfails, rfl, rfl, .inr ⟨_, rfl, id⟩⟩
    | false =>
      obtain ⟨answer, v, hcopy, _, _, hbytes | ⟨e, he, _⟩⟩ :=
        Window.honors_boundary.copyIn address length store.window
      · exact ⟨_, _, copyIn_of_works hfails hcopy, rfl, rfl, .inl hbytes⟩
      · exact ⟨_, _, copyIn_of_works hfails hcopy, rfl, rfl, .inr ⟨e, he, id⟩⟩
  copyOut address data store := by
    obtain ⟨window, gullible, checkFault, copyInFault, copyOutFault, log⟩ := store
    obtain ⟨answer, v, hcopy, _, hends⟩ := Window.honors_boundary.copyOut address data window
    simp only [boundary, copyOut, hcopy]
    split_ifs
    · exact ⟨_, _, rfl, trivial, .inr ⟨_, rfl, rfl, id⟩⟩
    · obtain hstored | ⟨e, he, hsame, _⟩ := hends
      · exact ⟨_, _, rfl, trivial, .inl hstored⟩
      · exact ⟨_, _, rfl, trivial, .inr ⟨e, he, hsame, id⟩⟩

namespace Endpoint

/-- If the boundary accepts the buffer of a request and then fails to copy one of its blocks,
the request ends there with the failure of the copy, and exactly the blocks before it have
been moved. -/
theorem copy_failure_midway {bus : RegisterBus β ε} {boundary : Boundary μ}
    {contents : β → Contents} {memory : μ → Contents} {Failed : β → Prop}
    {Grants : μ → UInt64 → Nat → Prop} (hbus : bus.Serves contents Failed)
    (hboundary : boundary.Honors memory Grants) (request : Request) (staging : Staging) {w : β}
    (m : μ) (hchunk : 0 < bus.chunkSize w) (hspace : bus.addressLimit w ≤ registerSpace) :
    let run := execute (bus.beside μ) (boundary.after β) request staging (w, m)
    let events := calls (bus.beside μ) (boundary.after β) request staging (w, m)
    ∀ event ∈ events, ∀ direction address length e,
      event.step = .copy direction address length → event.failure? = some e →
      ∃ j, CopyFailure request (bus.chunkSize w) j event e run.outcome events
        (contents w) (contents run.world.2.1) (memory m) (memory run.world.2.2) := by
  intro run events event hmem direction address length e hcopy hfailure
  let s : Setting β μ ε := ⟨bus, boundary, contents, Failed, memory, Grants, hbus, hboundary⟩
  obtain ⟨outcome, staging', c, v, made, hrun, hends⟩ :=
    s.execute_copies request staging m hchunk hspace
  -- The run without the recorder ends in the same way.
  obtain ⟨houtcome, hworld⟩ :=
    execute_traced (ε := ε) (bus.beside μ) (boundary.after β) request staging (w, m)
  simp only [run, events, calls, ← houtcome, ← hworld] at hmem ⊢
  rw [show execute (bus.beside μ).traced ((boundary.after β).traced ε) request staging
    ((w, m), []) = ⟨outcome, (staging', ((c, v), made))⟩ from hrun] at hmem ⊢
  simp only at hmem ⊢
  rcases hends with hnone | ⟨rest, rfl, hcopies⟩
  · exact absurd hcopy (hnone event hmem direction address length)
  have hmoved : event ∈ rest := by
    rcases List.mem_cons.mp hmem with rfl | hmem
    · cases hcopy
    · exact hmem
  have hne : event.failure? ≠ none := hfailure ▸ Option.some_ne_none e
  obtain ⟨hquiet, _, _⟩ | ⟨_, hquiet⟩ | ⟨before, after, hblocks, hearlier, hplan, hstep, hreported,
    hreached⟩ := hcopies
  · exact absurd (hquiet event hmoved).boundary hne
  · exact absurd (hquiet event hmoved) hne
  rename_i block earlier last cause
  obtain rfl : event = last := by
    rcases List.mem_append.mp hmoved with hmem | hmem
    · exact absurd (hearlier event hmem).boundary hne
    · exact List.mem_singleton.mp hmem
  obtain rfl : e = cause := Option.some.inj (hfailure.symm.trans hreported)
  obtain ⟨j, rfl, hlt, rfl⟩ := request.block_of_split hblocks
  rw [Request.offset_block] at hreached
  refine ⟨j, ⟨hlt, hstep, rfl, ⟨_ :: earlier, rfl, ?_⟩, ?_, hreached.of_write, hreached.of_read⟩⟩
  · rw [List.forall_mem_cons]
    exact ⟨⟨rfl, by simp [Event.busCall?]⟩, hearlier⟩
  · rw [List.map_cons, List.map_append, hplan, List.map_singleton, hstep]
    rfl

open Bench in
/-- A read of two blocks in chunks of 512 bytes, for a caller who takes only the first of
them. -/
theorem copy_failure_midway_second_block :
    let registers : Contents := fun address => UInt8.ofNat address
    let store : CallerStore :=
      { window := ⟨0x1000, Array.replicate 1030 7⟩, gullible := true, copyOutFault := some 1 }
    let request : Request := ⟨1030, 0x10, .read, 0x1000⟩
    let run := execute ((RegisterBus.faultless 512).beside CallerStore)
      (CallerStore.boundary.after Contents) request (Scratch.zero _) (registers, store)
    let events := calls ((RegisterBus.faultless 512).beside CallerStore)
      (CallerStore.boundary.after Contents) request (Scratch.zero _) (registers, store)
    run.outcome = .error (.buffer ⟨0x1400, 6⟩) ∧
      events.map Event.step = [.check 0x1000 1030, .chunk .read 0x10 512, .chunk .read 0x210 512,
        .copy .read 0x1000 1024, .chunk .read 0x410 6, .copy .read 0x1400 6] ∧
      run.world.2.2.window.contents
        = store.window.contents.patch request.buffer.toNat
          (registers.read request.register.toNat 1024) := by
  intro registers store request run events
  obtain ⟨event, hmem, hstep, hfailure⟩ : ∃ event ∈ events,
      event.step = .copy .read 0x1400 6 ∧ event.failure? = some ⟨0x1400, 6⟩ := by
    decide +kernel
  obtain ⟨j, hfailed⟩ := copy_failure_midway (RegisterBus.serves_faultless 512)
    CallerStore.honors_boundary request (Scratch.zero _) store (w := registers) (by decide)
    (Nat.le_refl _) event hmem _ _ _ _ hstep hfailure
  obtain rfl : j = 1 := by
    have hblock := hstep.symm.trans hfailed.step_eq
    simp only [Request.copyStep, Request.block, Step.copy.injEq] at hblock
    have haddress : 0x1400 = 0x1000 + 1024 * j := hblock.2.1
    omega
  simp only [run, events]
  exact ⟨hfailed.outcome_eq, hfailed.steps.trans (by decide +kernel), (hfailed.read rfl).2⟩

end Endpoint

end SensorLink

/-
The check of the caller's buffer, and what it misses.

The buffer of a request is checked as a whole before the first call on the bus, so
that a buffer out of reach leaves everything as it was.  The check counts in exact
integers, while the address of each block is counted in sixty-four bits.  A window
that reaches past the end of the address space is where the two disagree: its buffer
is accepted, and the first block that starts past the end is refused, when the blocks
before it have moved already.

* `Request.Overflows` — the requests that are accepted and cannot be finished;
* `moveBlocks_buffer_error`, `moveBlocks_ok` — blocks that are refused, and blocks
  that are finished, on any bus;
* `early_refusal_iff` — a refusal comes before the first call on the bus, unless the
  request overflows;
* `late_refusal` — a refusal that comes after it.
-/
import SensorLink.Bench.ScriptedBus
import SensorLink.Proofs.Control.CallsMade
import SensorLink.Proofs.Control.TransferCorrect

namespace SensorLink

variable {β ε : Type} {bus : RegisterBus β ε} {request : Request} {window : Window}

namespace Request

/-- Where the last block of the request starts. -/
def lastBlock (request : Request) : Nat :=
  stagingSize * ((request.length.toNat - 1) / stagingSize)

/-- The request passes its checks, but its last block starts past the address space. -/
structure Overflows (request : Request) (limit : Nat) (window : Window) : Prop where
  span_le : request.register.toNat + request.length.toNat ≤ limit
  holds : window.Holds request.buffer.toNat request.length.toNat
  overflow : UInt64.size ≤ request.buffer.toNat + request.lastBlock

theorem le_lastBlock {offset : Nat} (hdvd : stagingSize ∣ offset)
    (hlt : offset < request.length.toNat) : offset ≤ request.lastBlock := by
  obtain ⟨q, rfl⟩ := hdvd
  have hq : q ≤ (request.length.toNat - 1) / stagingSize :=
    (Nat.le_div_iff_mul_le (by decide)).mpr (by rw [Nat.mul_comm]; omega)
  exact Nat.mul_le_mul_left _ hq

theorem lastBlock_lt (hpos : 0 < request.length.toNat) :
    request.lastBlock < request.length.toNat := by
  have := Nat.mul_div_le (request.length.toNat - 1) stagingSize
  rw [lastBlock]
  omega

theorem Overflows.length_pos {limit : Nat} (h : request.Overflows limit window) :
    0 < request.length.toNat := by
  have hbuffer := request.buffer.toNat_lt_size
  have hoverflow := h.overflow
  refine Nat.pos_of_ne_zero ?_
  intro hzero
  rw [lastBlock, hzero, Nat.zero_sub, Nat.zero_div, Nat.mul_zero] at hoverflow
  omega

/-- A window that ends in the address space has no request that overflows. -/
theorem Overflows.not_fits {limit : Nat} (h : request.Overflows limit window) :
    ¬window.base.toNat + window.bytes.size ≤ UInt64.size := by
  have hlast := lastBlock_lt h.length_pos
  obtain ⟨_, ⟨_, hend⟩, hoverflow⟩ := h
  omega

end Request

/-! ### Blocks of a buffer in the window -/

namespace Endpoint

theorem wholeTransfer_ne_buffer (base : Nat) (outcome : Outcome (AccessError ε) Unit)
    (cause : CopyError) : wholeTransfer base outcome ≠ .error (.buffer cause) := by
  rcases outcome with _ | e | t
  · intro h
    cases h
  · rw [wholeTransfer]
    intro h
    cases hreport : e.offsetBy base with
    | some e =>
      rw [hreport] at h
      cases h
    | none =>
      rw [hreport] at h
      cases h
  · intro h
    cases h

/-- A block whose bytes are in the window is not refused, and the window goes on
covering what it covered. -/
theorem moveBlock_of_covers (bus : RegisterBus β ε) (direction : Direction) (register : UInt16)
    {address : UInt64} (block : Span) (hcovers : window.Covers address block.length)
    (hle : block.length ≤ stagingSize) (staging : Staging) (b : β) :
    let run := moveBlock (bus.beside Window) (Window.boundary.after β) direction register address
      block staging (b, window)
    (∀ cause, run.outcome ≠ .error (.buffer cause)) ∧ run.world.2.2.Covers = window.Covers := by
  intro run
  cases direction with
  | write =>
    have hrun : run = sendBlock (bus.beside Window) (Window.boundary.after β) register address
      block staging (b, window) := moveBlock_write hle
    have hcopy := Window.boundary_copyIn_of_covers hcovers
    rw [hrun, sendBlock_of_ok hle (Boundary.copyIn_after hcopy b) (bus.write_beside register _ b _)]
    exact ⟨wholeTransfer_ne_buffer _ _, rfl⟩
  | read =>
    have hrun : run = fetchBlock (bus.beside Window) (Window.boundary.after β) register address
      block staging (b, window) := moveBlock_read hle
    have hread := bus.read_beside register (staging.front block.length) b window
    obtain ⟨⟨outcome, bytes, c⟩, hplain⟩ : ∃ run,
      bus.read register (staging.front block.length) b = run := ⟨_, rfl⟩
    rw [hplain] at hread
    by_cases hok : outcome = .ok ()
    · subst hok
      have hsize := (staging.put bytes).length_front hle
      have hcopy : Window.boundary.copyOut address ((staging.put bytes).front block.length) window
          = (.ok (), window.store address ((staging.put bytes).front block.length)) :=
        Window.boundary_copyOut_of_covers (hsize.symm ▸ hcovers)
      rw [hrun, fetchBlock_of_ok hread (Boundary.copyOut_after hcopy c)]
      exact ⟨fun cause => nofun, window.covers_store _ _⟩
    · rw [hrun, fetchBlock_of_ne hread hok]
      exact ⟨wholeTransfer_ne_buffer _ _, rfl⟩

/-- If a block of a buffer in the window is refused, its address overflows. -/
theorem moveBlocks_buffer_error (bus : RegisterBus β ε) {start stop : Nat} {blocks : List Span}
    (htiles : Span.Tiles stagingSize start blocks stop) (hstop : stop ≤ request.length.toNat)
    (hholds : window.Holds request.buffer.toNat request.length.toNat) (staging : Staging) (b : β)
    {v : Window} (hsame : v.Covers = window.Covers) {cause : CopyError}
    (houtcome : (moveBlocks (bus.beside Window) (Window.boundary.after β) request blocks staging
      (b, v)).outcome = .error (.buffer cause)) :
    ∃ offset, stagingSize ∣ offset ∧ offset < stop ∧
      UInt64.size ≤ request.buffer.toNat + offset := by
  induction htiles generalizing staging b v with
  | nil => cases houtcome
  | @cons offset length stop blocks hdvd hpos hle htail ih =>
    have hmid := htail.le
    -- Either the block at hand overflows, or it is in the window and the others follow.
    rcases moveBlocks_cons_cases (bus.beside Window) (Window.boundary.after β) request
      ⟨offset, length⟩ blocks staging (b, v) with
      ⟨_, hrun⟩ | ⟨hge, _⟩ | ⟨register, address, _, haddress, hrun⟩
    · rw [hrun] at houtcome
      cases houtcome
    · exact ⟨offset, hdvd, by omega, hge⟩
    · have hcovers : v.Covers address length := by
        rw [hsame, window.covers_iff_holds, haddress]
        obtain ⟨hbase, hend⟩ := hholds
        constructor
        · omega
        · show request.buffer.toNat + offset + length ≤ _
          omega
      obtain ⟨hmoved, hcovered⟩ := moveBlock_of_covers bus request.direction register
        ⟨offset, length⟩ hcovers hle staging b
      rw [hrun] at houtcome
      rcases Run.andThen_eq_error houtcome with hblock | ⟨_, ⟨staging', c, u⟩, hblock, hrest⟩
      · exact absurd hblock (hmoved cause)
      · rw [hblock] at hcovered
        exact ih hstop staging' c (hcovered.trans hsame) hrest

/-- If all blocks are moved, none of their addresses overflows. -/
theorem moveBlocks_ok {ω : Type} {bus : RegisterBus ω ε} {boundary : Boundary ω}
    {blocks : List Span} {staging : Staging} {w : ω}
    (houtcome : (moveBlocks bus boundary request blocks staging w).outcome = .ok ()) {block : Span}
    (hmem : block ∈ blocks) : request.buffer.toNat + block.offset < UInt64.size := by
  induction blocks generalizing staging w with
  | nil => exact absurd hmem List.not_mem_nil
  | cons first blocks ih =>
    rcases moveBlocks_cons_cases bus boundary request first blocks staging w with
      ⟨_, hrun⟩ | ⟨_, hrun⟩ | ⟨register, address, _, haddress, hrun⟩
    · rw [hrun] at houtcome
      cases houtcome
    · rw [hrun] at houtcome
      cases houtcome
    · rcases List.mem_cons.mp hmem with rfl | hmem
      · rw [← haddress]
        exact address.toNat_lt_size
      · rw [hrun] at houtcome
        obtain ⟨_, p, _, hrest⟩ := Run.andThen_eq_ok houtcome
        exact ih hrest hmem

end Endpoint

/-! ### The check -/

namespace Endpoint

variable {ω : Type}

/-- If the blocks of a buffer in the window are refused, the first of them was moved. -/
theorem moveBlocks_called (bus : RegisterBus β ε) {length : Nat} (hpos : 0 < length)
    (hholds : window.Holds request.buffer.toNat length) (staging : Staging) (b : β)
    (log : List (Event ε)) {cause : CopyError}
    (houtcome : (moveBlocks (bus.beside Window).traced ((Window.boundary.after β).traced ε) request
      (Span.split stagingSize length) staging ((b, window), log)).outcome
        = .error (.buffer cause)) :
    ∃ events, (moveBlocks (bus.beside Window).traced ((Window.boundary.after β).traced ε) request
      (Span.split stagingSize length) staging ((b, window), log)).world.2.2 = log ++ events ∧
        Event.busCalls events ≠ [] := by
  have hfirst : 0 < min stagingSize length := Nat.lt_min.mpr ⟨by decide, hpos⟩
  have hle : min stagingSize length ≤ stagingSize := Nat.min_le_left ..
  rw [Span.split_of_pos (by decide) hpos] at houtcome ⊢
  rcases moveBlocks_cons_cases (bus.beside Window).traced ((Window.boundary.after β).traced ε)
    request ⟨0, min stagingSize length⟩
    ((Span.split stagingSize (length - stagingSize)).map (Span.shift stagingSize)) staging
    ((b, window), log) with ⟨_, hrun⟩ | ⟨hoverflow, _⟩ |
      ⟨register, address, _, haddress, hrun⟩
  · rw [hrun] at houtcome
    cases houtcome
  -- The first block starts at the buffer itself.
  · exact absurd request.buffer.toNat_lt_size (Nat.not_lt.mpr hoverflow)
  have hcovers : window.Covers address (min stagingSize length) := by
    rw [window.covers_iff_holds, haddress]
    obtain ⟨hbase, hend⟩ := hholds
    exact ⟨hbase, by simp only; omega⟩
  have hmoved := (moveBlock_of_covers bus request.direction register
    ⟨0, min stagingSize length⟩ hcovers hle staging b).1 cause
  -- The block ends with and without the recorder in the same way.
  obtain ⟨outcome, _, _, hblock, hblock', ⟨staging', hrecorded⟩⟩ :=
    sim_moveBlock (bus.beside Window).sim_traced ((Window.boundary.after β).sim_traced ε)
      request.direction register address ⟨0, min stagingSize length⟩ staging
      (show Recorded (b, window) ((b, window), log) from rfl)
  rw [hblock] at hmoved
  rw [outcome.mapError_eq_self RequestError.map_id] at hblock'
  rw [hrun, hblock'] at houtcome ⊢
  cases outcome with
  | error e =>
    cases houtcome
    exact absurd rfl hmoved
  | trap t => cases houtcome
  | ok =>
    obtain ⟨first, hfirst, hcalled⟩ :=
      moveBlock_called (bus.beside Window) (Window.boundary.after β) hfirst hle hblock'
    obtain ⟨rest, hrest⟩ := moveBlocks_log (bus.beside Window) (Window.boundary.after β) request
      ((Span.split stagingSize (length - stagingSize)).map (Span.shift stagingSize)) staging' _
      (log ++ first)
    refine ⟨first ++ rest, ?_, ?_⟩
    · rw [← List.append_assoc, ← hrest, ← hfirst]
      rfl
    · rw [Event.busCalls_append]
      exact fun h => hcalled (List.append_eq_nil_iff.mp h).1

/-- The calls on the bus that a request with a window of caller memory makes. -/
def windowCalls (bus : RegisterBus β ε) (request : Request) (staging : Staging) (b : β)
    (window : Window) : List (BusCall ε) :=
  Event.busCalls (Endpoint.calls (bus.beside Window) (Window.boundary.after β) request staging
    (b, window))

/-- A request that the check refuses makes no call on the bus and changes nothing. -/
theorem execute_of_not_covers (bus : RegisterBus β ε) (staging : Staging) {b : β}
    (hspan : request.register.toNat + request.length.toNat ≤ bus.addressLimit b)
    (hne : request.length.toNat ≠ 0)
    (hcovers : ¬window.Covers request.buffer request.length.toNat) :
    windowCalls bus request staging b window = [] ∧
      (execute (bus.beside Window) (Window.boundary.after β) request staging
        (b, window)).world.2 = (b, window) := by
  have hcheck := Window.boundary_check_of_not_covers hcovers
  constructor
  · rw [windowCalls, Endpoint.calls, execute_of_check_error (bus.beside Window).traced _ staging
      hspan hne (Boundary.check_traced_after hcheck b [])]
    rfl
  · rw [execute_of_check_error (bus.beside Window) _ staging hspan hne
      (Boundary.check_after hcheck b)]

/-- A request that the check accepts goes on to its blocks. -/
theorem execute_window (bus : RegisterBus β ε) (staging : Staging) {b : β}
    (hspan : request.register.toNat + request.length.toNat ≤ bus.addressLimit b)
    (hne : request.length.toNat ≠ 0)
    (hcovers : window.Covers request.buffer request.length.toNat) :
    execute (bus.beside Window) (Window.boundary.after β) request staging (b, window)
      = moveBlocks (bus.beside Window) (Window.boundary.after β) request
        (Span.split stagingSize request.length.toNat) staging (b, window) :=
  execute_of_check (bus.beside Window) _ staging hspan hne
    (Boundary.check_after (Window.boundary_check_of_covers hcovers) b)

theorem execute_window_traced (bus : RegisterBus β ε) (staging : Staging) {b : β}
    (hspan : request.register.toNat + request.length.toNat ≤ bus.addressLimit b)
    (hne : request.length.toNat ≠ 0)
    (hcovers : window.Covers request.buffer request.length.toNat) :
    execute (bus.beside Window).traced ((Window.boundary.after β).traced ε) request staging
        ((b, window), [])
      = moveBlocks (bus.beside Window).traced ((Window.boundary.after β).traced ε) request
        (Span.split stagingSize request.length.toNat) staging
        ((b, window), [.check request.buffer request.length.toNat none]) :=
  execute_of_check (bus.beside Window).traced _ staging hspan hne
    (Boundary.check_traced_after (Window.boundary_check_of_covers hcovers) b [])

/-- A request that the check accepts and that is refused later has made a call on the
bus, and overflows. -/
theorem execute_of_covers (bus : RegisterBus β ε) (staging : Staging) {b : β} {cause : CopyError}
    (hspan : request.register.toNat + request.length.toNat ≤ bus.addressLimit b)
    (hne : request.length.toNat ≠ 0)
    (hcovers : window.Covers request.buffer request.length.toNat)
    (houtcome : (execute (bus.beside Window) (Window.boundary.after β) request staging
      (b, window)).outcome = .error (.buffer cause)) :
    windowCalls bus request staging b window ≠ [] ∧
      request.Overflows (bus.addressLimit b) window := by
  have hholds := (window.covers_iff_holds _ _).mp hcovers
  constructor
  · have htraced := execute_window_traced bus staging hspan hne hcovers
    rw [← (execute_traced (ε := ε) (bus.beside Window) (Window.boundary.after β) request staging
      (b, window)).1, htraced] at houtcome
    obtain ⟨events, hevents, hcalled⟩ :=
      moveBlocks_called bus (Nat.pos_of_ne_zero hne) hholds staging b _ houtcome
    rw [windowCalls, Endpoint.calls, htraced, hevents, Event.busCalls_append, Event.busCalls_check,
      List.nil_append]
    exact hcalled
  · rw [execute_window bus staging hspan hne hcovers] at houtcome
    obtain ⟨offset, hdvd, hlt, hoverflow⟩ := moveBlocks_buffer_error bus
      (Span.tiles_split (by decide) _) (Nat.le_refl _) hholds staging b rfl houtcome
    have := Request.le_lastBlock hdvd hlt
    exact ⟨hspan, hholds, by omega⟩

/-- A buffer is refused before the first call on the bus, with nothing changed, or else
the request overflows. -/
theorem buffer_error_cases (bus : RegisterBus β ε) (request : Request) (staging : Staging) (b : β)
    (window : Window) {cause : CopyError}
    (houtcome : (execute (bus.beside Window) (Window.boundary.after β) request staging
      (b, window)).outcome = .error (.buffer cause)) :
    (windowCalls bus request staging b window = [] ∧
        (execute (bus.beside Window) (Window.boundary.after β) request staging
          (b, window)).world.2 = (b, window)) ∨
      (windowCalls bus request staging b window ≠ [] ∧
        request.Overflows (bus.addressLimit b) window) := by
  rcases Nat.lt_or_ge ((bus.beside Window).addressLimit (b, window))
    (request.register.toNat + request.length.toNat) with hlt | hspan
  · rw [execute_of_lt (bus.beside Window) _ staging hlt] at houtcome
    cases houtcome
  -- Neither a span past the limit nor an empty request gets as far as the check.
  by_cases hne : request.length.toNat = 0
  · rw [execute_of_zero (bus.beside Window) _ staging hspan hne] at houtcome
    cases houtcome
  by_cases hcovers : window.Covers request.buffer request.length.toNat
  · exact .inr (execute_of_covers bus staging hspan hne hcovers houtcome)
  · exact .inl (execute_of_not_covers bus staging hspan hne hcovers)

/-! ### Requests that are refused too late -/

/-- If the buffer is refused, no call on the bus was made and nothing has changed. -/
def RefusesEarly (bus : RegisterBus β ε) (request : Request) (staging : Staging) (b : β)
    (window : Window) : Prop :=
  let run := execute (bus.beside Window) (Window.boundary.after β) request staging (b, window)
  ∀ cause, run.outcome = .error (.buffer cause) →
    windowCalls bus request staging b window = [] ∧ run.world.2 = (b, window)

/-- A request that overflows is not finished, whatever the bus does. -/
theorem outcome_ne_ok (bus : RegisterBus β ε) {b : β}
    (h : request.Overflows (bus.addressLimit b) window) (staging : Staging) :
    (execute (bus.beside Window) (Window.boundary.after β) request staging
      (b, window)).outcome ≠ .ok () := by
  have hpos := h.length_pos
  obtain ⟨hspan, hholds, hoverflow⟩ := h
  have hcovers := (window.covers_iff_holds request.buffer request.length.toNat).mpr hholds
  rw [execute_window bus staging hspan (Nat.ne_of_gt hpos) hcovers]
  intro houtcome
  -- The last block is one of those that would have to be moved.
  obtain ⟨block, hmem, hblock⟩ := (Span.tiles_split (by decide) request.length.toNat).exists_mem
    (Nat.dvd_mul_right stagingSize _) (Nat.zero_le _) (Request.lastBlock_lt hpos)
  have hlt := moveBlocks_ok houtcome hmem
  rw [hblock] at hlt
  exact absurd hoverflow (Nat.not_le.mpr hlt)

end Endpoint

/-- On a bus that serves registers, an overflowing request is refused unless the bus
fails before. -/
theorem Setting.Ending.buffer_error_iff {contents : β → Contents} {Failed : β → Prop}
    {hbus : bus.Serves contents Failed} {b c : β} {v : Window}
    {outcome : Outcome (RequestError ε) Unit} {calls : List (BusCall ε)}
    (h : (Setting.ofWindow hbus).Ending request b window outcome calls c v)
    (hoverflows : request.Overflows (bus.addressLimit b) window) (hne : outcome ≠ .ok ()) :
    (∃ cause, outcome = .error (.buffer cause)) ↔ ∀ call ∈ calls, call.outcome = .ok () := by
  cases h with
  | outOfRange hlt => exact absurd hoverflows.span_le (Nat.not_le.mpr hlt)
  | inaccessible _ _ hcheck =>
    have hcovers := (window.covers_iff_holds _ _).mpr hoverflows.holds
    cases (Window.boundary_check_of_covers hcovers).symm.trans hcheck
  | moved _ _ hprogress =>
    cases hprogress with
    | finished => exact absurd rfl hne
    | failed _ _ _ hlast =>
      constructor
      · rintro ⟨_, hrefused⟩
        cases hrefused
      · intro h
        have hlast' := h _ (List.mem_append_right _ List.mem_cons_self)
        rw [hlast] at hlast'
        cases hlast'
    | refused hmoved =>
      constructor
      · intro _ _ hmem
        exact hmoved.outcome_of_mem hmem
      · intro _
        exact ⟨_, rfl⟩

namespace Endpoint

/-- A refusal comes before the first call on the bus and leaves everything as it was,
except for requests that overflow and are refused nevertheless.  No request does so if
the window ends in the address space.  On a bus that serves registers, the exceptions
are the requests that overflow and meet no failing call. -/
theorem early_refusal_iff (bus : RegisterBus β ε) (request : Request) (staging : Staging) (b : β)
    (window : Window) :
    let run := execute (bus.beside Window) (Window.boundary.after β) request staging (b, window)
    let limit := bus.addressLimit b
    (RefusesEarly bus request staging b window ↔
        ¬(request.Overflows limit window ∧ ∃ cause, run.outcome = .error (.buffer cause))) ∧
      (window.base.toNat + window.bytes.size ≤ UInt64.size →
        RefusesEarly bus request staging b window) ∧
      ∀ (contents : β → Contents) (Failed : β → Prop), bus.Serves contents Failed →
        0 < bus.chunkSize b → limit ≤ registerSpace →
        (RefusesEarly bus request staging b window ↔
          ¬(request.Overflows limit window ∧
            ∀ call ∈ windowCalls bus request staging b window, call.outcome = .ok ())) := by
  intro run limit
  have hiff : RefusesEarly bus request staging b window ↔
      ¬(request.Overflows limit window ∧ ∃ cause, run.outcome = .error (.buffer cause)) := by
    constructor
    · rintro hearly ⟨hoverflows, cause, houtcome⟩
      have hcovers := (window.covers_iff_holds _ _).mpr hoverflows.holds
      have hlate := execute_of_covers bus staging hoverflows.span_le
        (Nat.ne_of_gt hoverflows.length_pos) hcovers houtcome
      exact hlate.1 (hearly cause houtcome).1
    · intro h cause houtcome
      rcases buffer_error_cases bus request staging b window houtcome with hearly | ⟨_, hlate⟩
      · exact hearly
      · exact absurd ⟨hlate, cause, houtcome⟩ h
  refine ⟨hiff, ?_, ?_⟩
  · intro hwindow
    refine hiff.mpr ?_
    rintro ⟨hoverflows, _⟩
    exact hoverflows.not_fits hwindow
  · intro contents Failed hbus hchunk hspace
    refine hiff.trans (not_congr (and_congr_right ?_))
    intro hoverflows
    have hending := (Setting.ofWindow hbus).ending_execute request staging window hchunk hspace
    exact hending.buffer_error_iff hoverflows (outcome_ne_ok bus hoverflows staging)

open Bench in
/-- A buffer of two blocks that ends with the address space is refused early, if at
all. -/
theorem early_refusal_iff_top :
    RefusesEarly Recorder.registerBus ⟨2048, 0, .write, 0xFFFFFFFFFFFFF800⟩ (Scratch.zero _)
      { limit := 1024, registers := .zero } ⟨0xFFFFFFFFFFFFF800, Array.replicate 2048 7⟩ := by
  obtain ⟨_, _, hserving⟩ := early_refusal_iff Recorder.registerBus
    ⟨2048, 0, .write, 0xFFFFFFFFFFFFF800⟩ (Scratch.zero _)
    { limit := 1024, registers := .zero } ⟨0xFFFFFFFFFFFFF800, Array.replicate 2048 7⟩
  refine (hserving _ _ Recorder.serves_registerBus (by decide) (by decide)).mpr ?_
  rintro ⟨hoverflows, _⟩
  exact absurd hoverflows.overflow (by decide)

open Bench in
/-- A read of two blocks, of which the second starts where the address space ends: the
first is read before the second is refused. -/
theorem late_refusal :
    let scripted : ScriptedBus := ⟨1024, registerSpace, .zero, .ofList [], #[]⟩
    let window : Window := ⟨0xFFFFFFFFFFFFFC00, Array.replicate 2048 7⟩
    let request : Request := ⟨2048, 0, .read, 0xFFFFFFFFFFFFFC00⟩
    let run := execute (ScriptedBus.registerBus.beside Window) (Window.boundary.after ScriptedBus)
      request (Scratch.zero _) (scripted, window)
    run.outcome = .error (.buffer ⟨0xFFFFFFFFFFFFFC00, 2048⟩) ∧
      (windowCalls ScriptedBus.registerBus request (Scratch.zero _) scripted window).length = 1 ∧
      ¬RefusesEarly ScriptedBus.registerBus request (Scratch.zero _) scripted window := by
  intro scripted window request run
  have houtcome : run.outcome = .error (.buffer ⟨0xFFFFFFFFFFFFFC00, 2048⟩) := by decide +kernel
  have hcalls : (windowCalls ScriptedBus.registerBus request (Scratch.zero _) scripted
      window).length = 1 := by decide +kernel
  simp only [run] at houtcome ⊢
  refine ⟨houtcome, hcalls, ?_⟩
  intro hearly
  have hnone := congrArg List.length (hearly _ houtcome).1
  rw [hnone] at hcalls
  cases hcalls

end Endpoint

end SensorLink


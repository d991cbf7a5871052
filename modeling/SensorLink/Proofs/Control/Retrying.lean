/-
Transfers that are tried again.

A transfer that a failing bus cuts short has moved a part of its bytes, to the registers or
to caller memory.  Trying it again moves the same bytes to the same places.  So it does not
matter how often a transfer failed, or where: once it succeeds, registers and caller memory
are as if it had succeeded at once, and there they stay.

* `Setting.Reached.again` — of two attempts at a request, the one that came further counts;
* `Setting.Retriable` — a transfer that nothing but the bus can make fail, and that leaves
  its own record alone;
* `Retriable.attempt` — one more attempt;
* `Endpoint.attempts` — any number of them;
* `Endpoint.retrying_converges` — where they lead.

A read whose buffer overlaps its record is left out: it may overwrite the record with
another one.
-/
import SensorLink.Proofs.Control.TransferCorrect
import SensorLink.Proofs.Ranges

namespace SensorLink

variable {β ε : Type} {bus : RegisterBus β ε} {contents : β → Contents} {Failed : β → Prop}

namespace Setting

/-! ### One request after the other -/

/-- A request that is carried out again, in part or as a whole, adds nothing to what was
moved but the bytes that it moves further. -/
theorem Reached.again {μ : Type} {s : Setting β μ ε} {request : Request} {b₀ b c : β}
    {u₀ u v : μ} {sent stored sent' stored' : Nat}
    (h : s.Reached request b₀ u₀ sent stored b u)
    (h' : s.Reached request b u sent' stored' c v) :
    s.Reached request b₀ u₀ (max sent sent') (max stored stored') c v := by
  have hkeeps := h.keeps.trans h'.keeps
  have hgrants := h'.grants.trans h.grants
  rcases hdirection : request.direction with _ | _
  · obtain ⟨hcontents, hmemory⟩ := h.of_read hdirection
    obtain ⟨hcontents', hmemory'⟩ := h'.of_read hdirection
    refine ⟨hkeeps, hgrants, ?_, ?_⟩
    · rw [hcontents', hcontents, Request.registersAfter_of_read _ _ hdirection]
    · simp only [Request.memoryAfter, hdirection]
      rw [hmemory', hmemory, hcontents, Contents.patch_read_twice]
  · obtain ⟨hcontents, hmemory⟩ := h.of_write hdirection
    obtain ⟨hcontents', hmemory'⟩ := h'.of_write hdirection
    refine ⟨hkeeps, hgrants, ?_, ?_⟩
    · simp only [Request.registersAfter, hdirection]
      rw [hcontents', hcontents, hmemory, Contents.patch_read_twice]
    · rw [hmemory', hmemory, Request.memoryAfter_of_write _ _ hdirection]

/-- How a request with a window of caller memory ends. -/
theorem execute_window_ending (hbus : bus.Serves contents Failed) (request : Request)
    (staging : Staging) {b : β} (window : Window) (hchunk : 0 < bus.chunkSize b)
    (hspace : bus.addressLimit b ≤ registerSpace) :
    ∃ outcome calls staging' c v,
      Endpoint.execute (bus.beside Window) (Window.boundary.after β) request staging (b, window)
          = ⟨outcome, (staging', (c, v))⟩ ∧
        (Setting.ofWindow hbus).Ending request b window outcome calls c v :=
  ⟨_, _, _, _, _, rfl,
    (Setting.ofWindow hbus).ending_execute request staging window hchunk hspace⟩

namespace Ending

variable {hbus : bus.Serves contents Failed} {request : Request} {window v : Window} {b c : β}
  {outcome : Outcome (RequestError ε) Unit} {calls : List (BusCall ε)}

/-- A request whose registers and buffer are within reach succeeds, or the bus fails. -/
theorem of_accessible (h : (Setting.ofWindow hbus).Ending request b window outcome calls c v)
    (hspan : request.register.toNat + request.length.toNat ≤ bus.addressLimit b)
    (hbuffer : request.length = 0 ∨ window.Holds request.buffer.toNat request.length.toNat)
    (hwindow : window.base.toNat + window.bytes.size ≤ UInt64.size) :
    ∃ sent stored, sent ≤ request.length.toNat ∧ stored ≤ request.length.toNat ∧
      (Setting.ofWindow hbus).Reached request b window sent stored c v ∧
      ((outcome = .ok () ∧ sent = request.length.toNat ∧ stored = request.length.toNat) ∨
        ∃ direction offset e, outcome = .error (.access (.bus direction offset e))) := by
  cases h with
  | outOfRange hlt => exact absurd hspan (Nat.not_le.mpr hlt)
  | inaccessible _ hne hcheck =>
    have hcovers := (window.covers_iff_holds _ _).mpr (hbuffer.resolve_left hne)
    cases (Window.boundary_check_of_covers hcovers).symm.trans hcheck
  | moved _ _ hprogress =>
    cases hprogress with
    | finished _ hreached =>
      exact ⟨_, _, Nat.le_refl _, Nat.le_refl _, hreached, .inl ⟨rfl, rfl, rfl⟩⟩
    | @failed _ _ e n _ _ _ _ _ _ _ hlt _ hreached =>
      -- Whole blocks were stored, and these are not more than what was sent.
      have hblocks : stagingSize * (n / stagingSize) ≤ n := Nat.mul_div_le n stagingSize
      exact ⟨_, _, Nat.le_of_lt hlt, by omega, hreached, .inr ⟨_, _, e, rfl⟩⟩
    | refused _ _ _ _ hlt hrefusable =>
      exact absurd hrefusable (not_refusable hwindow hbuffer hlt)

/-- A request that succeeds had its registers and its buffer within reach, and has moved
all of its bytes. -/
theorem of_ok (h : (Setting.ofWindow hbus).Ending request b window (.ok ()) calls c v) :
    request.register.toNat + request.length.toNat ≤ bus.addressLimit b ∧
      (request.length = 0 ∨ window.Holds request.buffer.toNat request.length.toNat) ∧
      (Setting.ofWindow hbus).Reached request b window request.length.toNat
        request.length.toNat c v := by
  cases h with
  | moved hspan haccepted hprogress =>
    cases hprogress with
    | finished _ hreached => exact ⟨hspan, haccepted.imp_right Window.holds_of_check, hreached⟩

end Ending

/-! ### One more attempt -/

/-- A transfer that nothing but the bus can make fail, and that leaves its own record
alone. -/
structure Retriable (bus : RegisterBus β ε) (argument : UInt64) (request : Request) (b : β)
    (window : Window) : Prop where
  request_eq : Request.ofContents window.contents argument.toNat = request
  chunkSize_pos : 0 < bus.chunkSize b
  addressLimit_le : bus.addressLimit b ≤ registerSpace
  window_le : window.base.toNat + window.bytes.size ≤ UInt64.size
  record : window.Holds argument.toNat Request.recordLength
  span_le : request.register.toNat + request.length.toNat ≤ bus.addressLimit b
  buffer : request.length = 0 ∨ window.Holds request.buffer.toNat request.length.toNat
  apart : request.direction = .read →
    Disjoint (Contents.span argument.toNat Request.recordLength)
      (Contents.span request.buffer.toNat request.length.toNat)

namespace Retriable

variable {argument : UInt64} {request : Request} {b₀ b : β} {window₀ window : Window}

/-- The record reads the same, however far the transfer has come. -/
theorem request_reached {hbus : bus.Serves contents Failed}
    (h : Retriable bus argument request b₀ window₀) {sent stored : Nat}
    (hreached : (Setting.ofWindow hbus).Reached request b₀ window₀ sent stored b window)
    (hstored : stored ≤ request.length.toNat) :
    Request.ofContents window.contents argument.toNat = request := by
  have hsame : window.contents.read argument.toNat Request.recordLength
      = window₀.contents.read argument.toNat Request.recordLength := by
    rcases hdirection : request.direction with _ | _
    · have hmemory : window.contents = window₀.contents.patch request.buffer.toNat
          ((contents b₀).read request.register.toNat stored) := (hreached.of_read hdirection).2
      have hspan := Contents.span_mono request.buffer.toNat hstored
      rw [hmemory]
      refine Contents.read_patch_of_apart _ ?_
      rw [Contents.length_read]
      exact (h.apart hdirection).mono_right hspan
    · have hmemory : window.contents = window₀.contents := (hreached.of_write hdirection).2
      rw [hmemory]
  rw [← h.request_eq]
  simp only [Request.ofContents, hsame]

/-- However far the transfer has come, it can be tried again. -/
theorem of_reached {hbus : bus.Serves contents Failed}
    (h : Retriable bus argument request b₀ window₀) {sent stored : Nat}
    (hreached : (Setting.ofWindow hbus).Reached request b₀ window₀ sent stored b window)
    (hstored : stored ≤ request.length.toNat) : Retriable bus argument request b window := by
  have hcovers : window.Covers = window₀.Covers := hreached.grants
  have hchunkSize : bus.chunkSize b = bus.chunkSize b₀ := hreached.keeps.chunkSize
  have haddressLimit : bus.addressLimit b = bus.addressLimit b₀ := hreached.keeps.addressLimit
  refine ⟨h.request_reached hreached hstored, ?_, ?_, ?_, ?_, ?_, ?_, h.apart⟩
  · rw [hchunkSize]
    exact h.chunkSize_pos
  · rw [haddressLimit]
    exact h.addressLimit_le
  · rw [Window.base_eq_of_covers hcovers, Window.size_eq_of_covers hcovers]
    exact h.window_le
  · exact (Window.holds_of_covers hcovers _ _).mpr h.record
  · rw [haddressLimit]
    exact h.span_le
  · exact h.buffer.imp_right (Window.holds_of_covers hcovers _ _).mpr

/-- One more attempt comes as far as the attempts before it at least, and if it succeeds, to
the end. -/
theorem attempt (hbus : bus.Serves contents Failed)
    (h : Retriable bus argument request b₀ window₀) {sent stored : Nat}
    (hreached : (Setting.ofWindow hbus).Reached request b₀ window₀ sent stored b window)
    (hsent : sent ≤ request.length.toNat) (hstored : stored ≤ request.length.toNat)
    (staging : Staging) :
    ∃ outcome staging' c v sent' stored',
      Endpoint.transfer (bus.beside Window) (Window.boundary.after β) argument staging (b, window)
          = ⟨outcome, (staging', (c, v))⟩ ∧
        (Setting.ofWindow hbus).Reached request b₀ window₀ sent' stored' c v ∧
        sent ≤ sent' ∧ sent' ≤ request.length.toNat ∧
        stored ≤ stored' ∧ stored' ≤ request.length.toNat ∧
        ((outcome = .ok () ∧ sent' = request.length.toNat ∧ stored' = request.length.toNat) ∨
          ∃ direction offset e, outcome = .error (.access (.bus direction offset e))) := by
  have hagain := h.of_reached hreached hstored
  have hrun := Endpoint.transfer_of_holds hagain.record bus staging b
  obtain ⟨outcome, calls, staging', c, v, hexecute, hending⟩ := execute_window_ending hbus request
    staging window hagain.chunkSize_pos hagain.addressLimit_le
  rw [hagain.request_eq, hexecute] at hrun
  obtain ⟨sent', stored', hsent', hstored', hreached', hends⟩ :=
    hending.of_accessible hagain.span_le hagain.buffer hagain.window_le
  refine ⟨outcome, staging', c, v, max sent sent', max stored stored', hrun,
    hreached.again hreached', Nat.le_max_left .., Nat.max_le.mpr ⟨hsent, hsent'⟩,
    Nat.le_max_left .., Nat.max_le.mpr ⟨hstored, hstored'⟩, hends.imp_left ?_⟩
  rintro ⟨houtcome, hall, hall'⟩
  refine ⟨houtcome, ?_, ?_⟩
  · omega
  · omega

end Retriable

end Setting

/-! ### Any number of attempts -/

namespace Endpoint

/-- Makes a number of attempts at a transfer, one after the other.  Gives the outcome of
each of them. -/
def attempts {ω : Type} (bus : RegisterBus ω ε) (boundary : Boundary ω) (argument : UInt64) :
    Nat → Staging → ω → List (Outcome (RequestError ε) Unit) × (Staging × ω)
  | 0, staging, w => ([], (staging, w))
  | count + 1, staging, w =>
    match transfer bus boundary argument staging w with
    | ⟨outcome, (staging, w)⟩ =>
      match attempts bus boundary argument count staging w with
      | (outcomes, p) => (outcome :: outcomes, p)

/-- Attempts never fall behind, and one that succeeds brings them to the end. -/
theorem attempts_reached (hbus : bus.Serves contents Failed) {argument : UInt64}
    {request : Request} {b₀ : β} {window₀ : Window}
    (h : Setting.Retriable bus argument request b₀ window₀) (count : Nat) {sent stored : Nat}
    {b : β} {window : Window}
    (hreached : (Setting.ofWindow hbus).Reached request b₀ window₀ sent stored b window)
    (hsent : sent ≤ request.length.toNat) (hstored : stored ≤ request.length.toNat)
    (staging : Staging) :
    ∃ outcomes staging' c v sent' stored',
      attempts (bus.beside Window) (Window.boundary.after β) argument count staging (b, window)
          = (outcomes, (staging', (c, v))) ∧
        (Setting.ofWindow hbus).Reached request b₀ window₀ sent' stored' c v ∧
        sent ≤ sent' ∧ sent' ≤ request.length.toNat ∧
        stored ≤ stored' ∧ stored' ≤ request.length.toNat ∧
        (∀ outcome ∈ outcomes, outcome = .ok () ∨
          ∃ direction offset e, outcome = .error (.access (.bus direction offset e))) ∧
        (.ok () ∈ outcomes → sent' = request.length.toNat ∧ stored' = request.length.toNat) := by
  induction count generalizing sent stored b window staging with
  | zero =>
    refine ⟨[], staging, b, window, sent, stored, rfl, hreached, Nat.le_refl _, hsent,
      Nat.le_refl _, hstored, ?_, ?_⟩
    · intro outcome hmem
      exact absurd hmem List.not_mem_nil
    · intro hmem
      exact absurd hmem List.not_mem_nil
  | succ count ih =>
    obtain ⟨outcome, staging, c, v, sent', stored', hrun, hreached', hsent', hle, hstored', hle',
      hends⟩ := h.attempt hbus hreached hsent hstored staging
    obtain ⟨outcomes, staging, c', v', sent'', stored'', hrest, hreached'', hsent'', hlast,
      hstored'', hlast', hothers, hok⟩ := ih hreached' hle hle' staging
    refine ⟨outcome :: outcomes, staging, c', v', sent'', stored'', ?_, hreached'', by omega, hlast,
      by omega, hlast', ?_, ?_⟩
    · simp only [attempts, hrun, hrest]
    · intro other hmem
      rcases List.mem_cons.mp hmem with rfl | hmem
      · exact hends.imp_left And.left
      · exact hothers other hmem
    -- What was reached once is not lost by the attempts that follow.
    · intro hmem
      rcases List.mem_cons.mp hmem with hfirst | hmem
      · rcases hends with ⟨_, hall, hall'⟩ | ⟨direction, offset, e, herror⟩
        · constructor
          · omega
          · omega
        · cases hfirst.trans herror
      · exact hok hmem

/-- Take a transfer that succeeds on some serving bus with the same registers, for a read with
a buffer apart from its record.  On a bus that may fail at any call, each attempt at it
succeeds or fails with an error of the bus, and as soon as one of them has succeeded, registers
and caller memory are and stay what that single transfer makes of them. -/
theorem retrying_converges {γ δ : Type} {working : RegisterBus γ δ} {contents' : γ → Contents}
    {Failed' : γ → Prop} (hbus : bus.Serves contents Failed)
    (hworking : working.Serves contents' Failed') (argument : UInt64) (b : β) (c : γ)
    (window : Window) (staging staging' : Staging) (hchunk : 0 < bus.chunkSize b)
    (hchunk' : 0 < working.chunkSize c) (hspace : bus.addressLimit b ≤ registerSpace)
    (hlimit : working.addressLimit c = bus.addressLimit b) (hsame : contents' c = contents b)
    (hwindow : window.base.toNat + window.bytes.size ≤ UInt64.size) :
    let request := Request.ofContents window.contents argument.toNat
    let single := transfer (working.beside Window) (Window.boundary.after γ) argument staging'
      (c, window)
    single.outcome = .ok () →
    (request.direction = .read → Disjoint (Set.Ico argument.toNat (argument.toNat + 16))
      (Set.Ico request.buffer.toNat (request.buffer.toNat + request.length.toNat))) →
    ∀ count,
    let run := attempts (bus.beside Window) (Window.boundary.after β) argument count staging
      (b, window)
    (∀ outcome ∈ run.1, outcome = .ok () ∨
        ∃ direction offset e, outcome = .error (.access (.bus direction offset e))) ∧
      (.ok () ∈ run.1 → contents run.2.2.1 = contents' single.world.2.1 ∧
        run.2.2.2 = single.world.2.2) := by
  intro request single hsingle hapart count run
  by_cases hrecord : window.Holds argument.toNat Request.recordLength
  · obtain ⟨outcome, calls, last, c', w, hexecute, hending⟩ :=
      Setting.execute_window_ending hworking request staging' window hchunk' (hlimit ▸ hspace)
    have hrun : single = ⟨outcome, (last, (c', w))⟩ :=
      (transfer_of_holds hrecord working staging' c).trans hexecute
    rw [hrun] at hsingle ⊢
    obtain rfl : outcome = .ok () := hsingle
    obtain ⟨hspan, hbuffer, hall⟩ := hending.of_ok
    have hretriable : Setting.Retriable bus argument request b window :=
      ⟨rfl, hchunk, hspace, hwindow, hrecord, hlimit ▸ hspan, hbuffer, hapart⟩
    have hstart := Setting.Reached.refl (Setting.ofWindow hbus) request b window
    obtain ⟨outcomes, staging'', b', v, sent, stored, hattempts, hreached, _, _, _, _, hends,
        hok⟩ :=
      attempts_reached hbus hretriable count hstart (Nat.zero_le _) (Nat.zero_le _) staging
    have hrun' : run = (outcomes, (staging'', (b', v))) := hattempts
    rw [hrun']
    refine ⟨hends, ?_⟩
    intro hmem
    obtain ⟨rfl, rfl⟩ := hok hmem
    -- Both have moved all bytes of the same request, from the same registers and memory.
    have hcontents : contents b' = request.registersAfter (contents b) window.contents
        request.length.toNat := hreached.contents
    have hcontents' : contents' c' = request.registersAfter (contents' c) window.contents
        request.length.toNat := hall.contents
    have hmemory : v.contents = request.memoryAfter (contents b) window.contents
        request.length.toNat := hreached.memory
    have hmemory' : w.contents = request.memoryAfter (contents' c) window.contents
        request.length.toNat := hall.memory
    have hcovers : v.Covers = w.Covers := hreached.grants.trans hall.grants.symm
    constructor
    · rw [hcontents, hcontents', hsame]
    · refine Window.eq_of_contents hcovers ?_
      rw [hmemory, hmemory', hsame]
  · have hrun : single = ⟨.error (.record ⟨argument, 16⟩), (staging', (c, window))⟩ :=
      transfer_of_not_holds hrecord working staging' c
    rw [hrun] at hsingle
    cases hsingle

open Bench in
/-- Eight bytes in chunks of four, of which the second fails at first; the transfer is made
once more than needed. -/
theorem retrying_converges_twice :
    let failing : Recorder := { limit := 4, registers := .zero, failOn := some 1 }
    let working : Recorder := { limit := 4, registers := .zero }
    let window : Window := ⟨0x1000, #[8, 0, 0x20, 0, 1, 0, 0, 0, 0x10, 0x10, 0, 0, 0, 0, 0, 0,
      1, 2, 3, 4, 5, 6, 7, 8]⟩
    let bus := Recorder.registerBus.beside Window
    let boundary := Window.boundary.after Recorder
    let run := attempts bus boundary 0x1000 3 (Scratch.zero _) (failing, window)
    let single := transfer bus boundary 0x1000 (Scratch.zero _) (working, window)
    run.1 = [.error (.access (.bus .write 4 ())), .ok (), .ok ()] ∧
      run.2.2.1.registers.contents = single.world.2.1.registers.contents ∧
      run.2.2.2 = single.world.2.2 := by
  intro failing working window bus boundary run single
  have hdirection : (Request.ofContents window.contents (0x1000 : UInt64).toNat).direction
      ≠ .read := by decide +kernel
  have hsingle : single.outcome = .ok () := by decide +kernel
  have houtcomes : run.1 = [.error (.access (.bus .write 4 ())), .ok (), .ok ()] := by
    decide +kernel
  obtain ⟨_, hconverges⟩ := retrying_converges Recorder.serves_registerBus
    Recorder.serves_registerBus 0x1000 failing working window (Scratch.zero _) (Scratch.zero _)
    (by decide) (by decide) (by decide) rfl rfl (by decide) hsingle
    (fun hread => absurd hread hdirection) 3
  have hmem : .ok () ∈ run.1 := by
    rw [houtcomes]
    exact List.mem_cons_of_mem _ List.mem_cons_self
  simp only [run, single, bus, boundary] at houtcomes hmem ⊢
  obtain ⟨hregisters, hmemory⟩ := hconverges hmem
  exact ⟨houtcomes, hregisters, hmemory⟩

end Endpoint

end SensorLink

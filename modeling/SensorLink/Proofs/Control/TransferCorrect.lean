/-
Transfers in which no call of the bus fails.

A transfer asks three things in order: that its record lies in the window of caller
memory, that its registers lie below the limit of the bus, and that its buffer lies
in the window.  It does all of what its record says if they hold, and otherwise
reports the first that fails and does nothing.

* `Ending.of_not_failed` — a request that passes its checks is carried out;
* `transfer_correct` — transfers, from the record in caller memory to the bytes moved.

The window must not reach past the end of the address space: the addresses of a
window that does are refused block by block.
-/
import SensorLink.Proofs.Bench.Serving
import SensorLink.Proofs.Control.Progress

namespace SensorLink

variable {β ε : Type} {bus : RegisterBus β ε} {contents : β → Contents} {Failed : β → Prop}

/-- A serving bus with a window of caller memory. -/
def Setting.ofWindow (hbus : bus.Serves contents Failed) : Setting β Window ε :=
  ⟨bus, Window.boundary, contents, Failed, Window.contents, Window.Covers, hbus,
    Window.honors_boundary⟩

/-- No block of a buffer in the window is refused, if the window ends in the address
space. -/
theorem Setting.not_refusable {hbus : bus.Serves contents Failed} {request : Request}
    {window : Window} (hwindow : window.base.toNat + window.bytes.size ≤ UInt64.size)
    (hbuffer : request.length = 0 ∨ window.Holds request.buffer.toNat request.length.toNat)
    {offset : Nat} (hlt : offset < request.length.toNat) :
    ¬(Setting.ofWindow hbus).Refusable request window offset := by
  rcases hbuffer with hempty | ⟨hbase, hend⟩
  · rw [hempty] at hlt
    exact absurd hlt (Nat.not_lt_zero offset)
  rintro (hoverflow | ⟨address, length, haddress, hlength, hdenied⟩)
  · omega
  · refine hdenied ((window.covers_iff_holds address length).mpr ⟨?_, ?_⟩)
    · omega
    · omega

namespace Setting.Ending

variable {hbus : bus.Serves contents Failed} {request : Request} {window v : Window}
  {b c : β} {outcome : Outcome (RequestError ε) Unit} {calls : List (BusCall ε)}

/-- How a request ends if no call has failed and the window ends in the address
space. -/
theorem of_not_failed (h : (Setting.ofWindow hbus).Ending request b window outcome calls c v)
    (hfault : ¬Failed c) (hwindow : window.base.toNat + window.bytes.size ≤ UInt64.size) :
    (bus.addressLimit b < request.register.toNat + request.length.toNat ∧
        outcome = .error (.access (.outOfRange request.register request.length.toNat)) ∧
        c = b ∧ v = window) ∨
      (request.register.toNat + request.length.toNat ≤ bus.addressLimit b ∧
        request.length ≠ 0 ∧ ¬window.Holds request.buffer.toNat request.length.toNat ∧
        outcome = .error (.buffer ⟨request.buffer, request.length.toNat⟩) ∧
        c = b ∧ v = window) ∨
      (request.register.toNat + request.length.toNat ≤ bus.addressLimit b ∧
        (request.length = 0 ∨ window.Holds request.buffer.toNat request.length.toNat) ∧
        outcome = .ok () ∧
        (Setting.ofWindow hbus).Reached request b window request.length.toNat
          request.length.toNat c v) := by
  cases h with
  | outOfRange hlt => exact .inl ⟨hlt, rfl, rfl, rfl⟩
  | inaccessible hspan hne hcheck =>
    refine .inr (.inl ⟨hspan, hne, ?_⟩)
    by_cases hcovers : window.Covers request.buffer request.length.toNat
    · cases (Window.boundary_check_of_covers hcovers).symm.trans hcheck
    · cases (Window.boundary_check_of_not_covers hcovers).symm.trans hcheck
      refine ⟨?_, rfl, rfl, rfl⟩
      intro hholds
      exact hcovers ((window.covers_iff_holds _ _).mpr hholds)
  | moved hspan haccepted hprogress =>
    have hholds : request.length = 0 ∨
        window.Holds request.buffer.toNat request.length.toNat :=
      haccepted.imp_right Window.holds_of_check
    refine .inr (.inr ⟨hspan, hholds, ?_⟩)
    cases hprogress with
    | finished _ hreached => exact ⟨rfl, hreached⟩
    -- No call has failed, and no block of a buffer in the window is refused.
    | failed _ _ _ _ _ _ hfailed => exact absurd hfailed hfault
    | refused _ _ _ _ hlt hrefusable =>
      exact absurd hrefusable (not_refusable hwindow hholds hlt)

end Setting.Ending

namespace Endpoint

/-- A transfer whose record lies in the window carries out what the record says. -/
theorem transfer_of_holds {window : Window} {argument : UInt64}
    (h : window.Holds argument.toNat Request.recordLength) (bus : RegisterBus β ε)
    (staging : Staging) (b : β) :
    transfer (bus.beside Window) (Window.boundary.after β) argument staging (b, window)
      = execute (bus.beside Window) (Window.boundary.after β)
        (Request.ofContents window.contents argument.toNat) staging (b, window) := by
  have hcovers := (window.covers_iff_holds argument Request.recordLength).mpr h
  simp only [transfer, Boundary.copyIn_after (Window.boundary_copyIn_of_covers hcovers) b,
    Request.decode_fetch window hcovers]

/-- A transfer whose record does not is refused. -/
theorem transfer_of_not_holds {window : Window} {argument : UInt64}
    (h : ¬window.Holds argument.toNat Request.recordLength) (bus : RegisterBus β ε)
    (staging : Staging) (b : β) :
    transfer (bus.beside Window) (Window.boundary.after β) argument staging (b, window)
      = ⟨.error (.record ⟨argument, Request.recordLength⟩), (staging, (b, window))⟩ := by
  have hcovers := mt (window.covers_iff_holds argument Request.recordLength).mp h
  simp only [transfer, Boundary.copyIn_after (Window.boundary_copyIn_of_not_covers hcovers) b]

/-- What a request does if no call of the bus fails. -/
theorem execute_of_not_failed (hbus : bus.Serves contents Failed) (request : Request)
    (staging : Staging) (b : β) (window : Window) (hchunk : 0 < bus.chunkSize b)
    (hspace : bus.addressLimit b ≤ registerSpace)
    (hwindow : window.base.toNat + window.bytes.size ≤ UInt64.size) :
    let register := request.register.toNat
    let buffer := request.buffer.toNat
    let length := request.length.toNat
    let run := execute (bus.beside Window) (Window.boundary.after β) request staging (b, window)
    ¬Failed run.world.2.1 →
    (bus.addressLimit b < register + length ∧
        run.outcome = .error (.access (.outOfRange request.register length)) ∧
        run.world.2 = (b, window)) ∨
      (register + length ≤ bus.addressLimit b ∧ length ≠ 0 ∧ ¬window.Holds buffer length ∧
        run.outcome = .error (.buffer ⟨request.buffer, length⟩) ∧ run.world.2 = (b, window)) ∨
      (register + length ≤ bus.addressLimit b ∧ (length = 0 ∨ window.Holds buffer length) ∧
        run.outcome = .ok () ∧
        (Setting.ofWindow hbus).Reached request b window length length run.world.2.1
          run.world.2.2) := by
  intro register buffer length run hfault
  have hzero : length = 0 ↔ request.length = 0 := UInt16.toNat_inj (b := 0)
  -- The checks are made in the order of the three cases.
  rcases ((Setting.ofWindow hbus).ending_execute request staging window hchunk
      hspace).of_not_failed hfault hwindow with
    ⟨hlt, houtcome, hb, hv⟩ | ⟨hspan, hne, hbuffer, houtcome, hb, hv⟩ |
      ⟨hspan, hbuffer, houtcome, hreached⟩
  · exact .inl ⟨hlt, houtcome, Prod.ext hb hv⟩
  · exact .inr (.inl ⟨hspan, mt hzero.mp hne, hbuffer, houtcome, Prod.ext hb hv⟩)
  · exact .inr (.inr ⟨hspan, hbuffer.imp_left hzero.mpr, houtcome, hreached⟩)

/-- A transfer in which no call of the bus fails succeeds iff its record, its registers
and its buffer are all within reach, and then it moves exactly the bytes that the
record names.  Otherwise it reports the first of the three that is not, and nothing
has changed. -/
theorem transfer_correct (hbus : bus.Serves contents Failed) (argument : UInt64)
    (staging : Staging) (b : β) (window : Window) (hchunk : 0 < bus.chunkSize b)
    (hspace : bus.addressLimit b ≤ registerSpace)
    (hwindow : window.base.toNat + window.bytes.size ≤ UInt64.size) :
    let request := Request.ofContents window.contents argument.toNat
    let register := request.register.toNat
    let buffer := request.buffer.toNat
    let length := request.length.toNat
    let limit := bus.addressLimit b
    let run := transfer (bus.beside Window) (Window.boundary.after β) argument staging (b, window)
    ¬Failed run.world.2.1 →
    (run.outcome = .ok () ↔ window.Holds argument.toNat 16 ∧ register + length ≤ limit ∧
        (length = 0 ∨ window.Holds buffer length)) ∧
      (¬window.Holds argument.toNat 16 → run.outcome = .error (.record ⟨argument, 16⟩)) ∧
      (window.Holds argument.toNat 16 → limit < register + length →
        run.outcome = .error (.access (.outOfRange request.register length))) ∧
      (window.Holds argument.toNat 16 → register + length ≤ limit → length ≠ 0 →
        ¬window.Holds buffer length → run.outcome = .error (.buffer ⟨request.buffer, length⟩)) ∧
      (run.outcome ≠ .ok () → run.world.2 = (b, window)) ∧
      (run.outcome = .ok () → run.world.2.2.Covers = window.Covers ∧
        (request.direction = .write →
          contents run.world.2.1
              = (contents b).patch register (window.contents.read buffer length) ∧
            run.world.2.2.contents = window.contents) ∧
        (request.direction = .read →
          contents run.world.2.1 = contents b ∧
            run.world.2.2.contents
              = window.contents.patch buffer ((contents b).read register length))) := by
  intro request register buffer length limit run hfault
  by_cases hrecord : window.Holds argument.toNat Request.recordLength
  · have hrun : run = execute (bus.beside Window) (Window.boundary.after β) request staging
        (b, window) := transfer_of_holds hrecord bus staging b
    rcases execute_of_not_failed hbus request staging b window hchunk hspace hwindow
        (hrun ▸ hfault) with
      ⟨hlt, houtcome, hworld⟩ | ⟨hspan, hne, hbuffer, houtcome, hworld⟩ |
        ⟨hspan, hbuffer, houtcome, hreached⟩
    · rw [← hrun] at houtcome hworld
      rw [houtcome]
      refine ⟨⟨?_, ?_⟩, ?_, ?_, ?_, ?_, ?_⟩
      · intro h
        cases h
      · rintro ⟨_, hspan, _⟩
        exact absurd hspan (Nat.not_le.mpr hlt)
      · intro hrefused
        exact absurd hrecord hrefused
      · intro _ _
        rfl
      · intro _ hspan
        exact absurd hspan (Nat.not_le.mpr hlt)
      · intro _
        exact hworld
      · intro h
        cases h
    · rw [← hrun] at houtcome hworld
      rw [houtcome]
      refine ⟨⟨?_, ?_⟩, ?_, ?_, ?_, ?_, ?_⟩
      · intro h
        cases h
      · rintro ⟨_, _, haccepted⟩
        exact absurd haccepted (not_or.mpr ⟨hne, hbuffer⟩)
      · intro hrefused
        exact absurd hrecord hrefused
      · intro _ hlt
        exact absurd hspan (Nat.not_le.mpr hlt)
      · intro _ _ _ _
        rfl
      · intro _
        exact hworld
      · intro h
        cases h
    · rw [← hrun] at houtcome hreached
      refine ⟨⟨?_, ?_⟩, ?_, ?_, ?_, ?_, ?_⟩
      · intro _
        exact ⟨hrecord, hspan, hbuffer⟩
      · intro _
        exact houtcome
      · intro hrefused
        exact absurd hrecord hrefused
      · intro _ hlt
        exact absurd hspan (Nat.not_le.mpr hlt)
      · intro _ _ hne hdenied
        exact absurd hbuffer (not_or.mpr ⟨hne, hdenied⟩)
      · intro hne
        exact absurd houtcome hne
      · intro _
        exact ⟨hreached.grants, hreached.of_write, hreached.of_read⟩
  · have hrun : run = ⟨.error (.record ⟨argument, 16⟩), (staging, (b, window))⟩ :=
      transfer_of_not_holds hrecord bus staging b
    rw [hrun]
    refine ⟨⟨?_, ?_⟩, ?_, ?_, ?_, ?_, ?_⟩
    · intro h
      cases h
    · rintro ⟨hholds, _⟩
      exact absurd hholds hrecord
    · intro _
      rfl
    · intro hholds
      exact absurd hholds hrecord
    · intro hholds
      exact absurd hholds hrecord
    · intro _
      rfl
    · intro h
      cases h

open Bench in
/-- A write of eight bytes, in chunks of three, from the middle of its own record. -/
theorem transfer_correct_overlapping :
    let recorder : Recorder := { limit := 3, registers := .zero }
    let window : Window := ⟨0x1000, #[8, 0, 0x20, 0, 1, 0, 0, 0, 4, 0x10, 0, 0, 0, 0, 0, 0]⟩
    let request : Request := ⟨8, 0x20, .write, 0x1004⟩
    let run := transfer (Recorder.registerBus.beside Window) (Window.boundary.after Recorder)
      0x1000 (Scratch.zero _) (recorder, window)
    run.outcome = .ok () ∧
      run.world.2.1.registers.contents = recorder.registers.contents.patch request.register.toNat
        (window.contents.read request.buffer.toNat request.length.toNat) ∧
      run.world.2.2.contents = window.contents := by
  intro recorder window request run
  have hrequest : Request.ofContents window.contents (0x1000 : UInt64).toNat = request := by
    decide +kernel
  have hrun : run = execute (Recorder.registerBus.beside Window) (Window.boundary.after Recorder)
      request (Scratch.zero _) (recorder, window) := by
    rw [← hrequest]
    exact transfer_of_holds ⟨by decide, by decide⟩ _ _ _
  have houtcome : run.outcome = .ok () := by
    rw [hrun]
    decide +kernel
  have hfault : ¬run.world.2.1.Failed := by
    have hnone : run.world.2.1.failOn = none := by
      rw [hrun]
      decide +kernel
    rintro ⟨n, hn, _⟩
    rw [hnone] at hn
    cases hn
  simp only [run] at houtcome hfault ⊢
  obtain ⟨_, _, _, _, _, hok⟩ := transfer_correct Recorder.serves_registerBus 0x1000
    (Scratch.zero _) recorder window (by decide) (by decide) (by decide) hfault
  obtain ⟨_, hwrite, _⟩ := hok houtcome
  rw [hrequest] at hwrite
  exact ⟨houtcome, hwrite rfl⟩

end Endpoint

end SensorLink

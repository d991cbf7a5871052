/-
Detection, call by call.

A detection is three accesses of one register each: it selects a page of registers, and reads
the two identity registers.  An access of one register is one chunk call, so a detection has
four ways to go, one for each call that may fail and one in which all of them succeed.

* `RegisterBus.access_one` — an access of one register is one call;
* `Serves.writeByte_traced`, `Serves.readByte_traced` — what it does, and what is noted of it;
* `Detection` — the four ways of a detection;
* `Serves.detect_traced` — every detection goes one of them;
* `Detects` — what this says about calls, result and registers;
* `detects_after_jobs` — so does a detection after any other jobs, failed ones included.
-/
import SensorLink.Proofs.FlatSensor
import SensorLink.Proofs.Jobs
import SensorLink.Proofs.Wire.Overwriting

namespace SensorLink

variable {ω ε μ ι ρ : Type} {bus : RegisterBus ω ε} {contents : ω → Contents} {Failed : ω → Prop}

/-! ### Accesses of one register -/

theorem Span.split_one {size : Nat} (hsize : 0 < size) : split size 1 = [⟨0, 1⟩] := by
  rw [split_of_pos hsize Nat.one_pos, Nat.sub_eq_zero_of_le hsize, split_zero, List.map_nil,
    Nat.min_eq_right hsize]

theorem registerAt_zero (register : UInt16) : registerAt register 0 = some register := by
  rw [registerAt_of_lt register.toNat_lt]
  exact congrArg some (UInt16.ofNat_toNat ..)

theorem Contents.patch_one (contents : Contents) (start : Nat) (value : UInt8) (address : Nat) :
    contents.patch start [value] address = if address = start then value else contents address := by
  rcases Nat.lt_trichotomy address start with hlt | rfl | hgt
  · rw [if_neg (by omega), patch_of_lt _ _ hlt]
  · rw [if_pos rfl, patch, if_pos (Nat.le_refl _), Nat.sub_self]
    rfl
  · rw [if_neg (by omega), patch_of_ge _ hgt]

namespace RegisterBus

/-- An access of one register is one chunk call. -/
theorem access_one (bus : RegisterBus ω ε) (direction : Direction) {register : UInt16}
    (value : UInt8) {w : ω} (hchunk : 0 < bus.chunkSize w)
    (hlimit : register.toNat < bus.addressLimit w) :
    bus.access direction register [value] w
      = (bus.chunk direction register [value] w).mapError (.bus direction 0) := by
  have hlimit : register.toNat + [value].length ≤ bus.addressLimit w := hlimit
  rw [bus.access_of_le direction register hlimit hchunk, List.length_singleton,
    Span.split_one hchunk, movePieces_cons]
  simp only [registerAt_zero, List.take_succ_cons, List.take_zero, List.drop_succ_cons,
    List.drop_nil, List.append_nil, movePieces_nil, Run.mapWorld]
  rcases bus.chunk direction register [value] w with ⟨_ | e | t, chunk, v⟩ <;> rfl

namespace Serves

/-- A write of one register is noted as one call, which does it or fails. -/
theorem writeByte_traced (h : bus.Serves contents Failed) (register : UInt16) (value : UInt8)
    {w : ω} (log : List (Event ε)) (hchunk : 0 < bus.chunkSize w)
    (hlimit : register.toNat < bus.addressLimit w) :
    ∃ ending v, bus.traced.writeByte register value (w, log)
        = ⟨ending.mapError (.bus .write 0),
            (v, log ++ [.bus ⟨.write, register, [value], ending⟩])⟩ ∧
      bus.Keeps Failed w v ∧
      (ending = .ok () ∧ contents v = (contents w).patch register.toNat [value] ∨
        ∃ e, ending = .error e ∧ contents v = contents w) := by
  obtain ⟨ending, v, hrun, hkeeps, hends⟩ := h.writeChunk register [value] w
    ⟨Nat.one_pos, hchunk, hlimit⟩
  refine ⟨ending, v, ?_, hkeeps, ?_⟩
  · have hone := bus.traced.access_one .write (w := (w, log)) value hchunk hlimit
    obtain ⟨⟨outcome, p⟩, hwrite⟩ : ∃ run, bus.traced.write register [value] (w, log) = run :=
      ⟨_, rfl⟩
    rw [traced_chunk, chunk, hrun, access, hwrite] at hone
    cases hone
    exact hwrite
  · rcases hends with hok | ⟨e, hending, hsame, _⟩
    · exact .inl hok
    · exact .inr ⟨e, hending, hsame⟩

/-- A read of one register is noted as one call, which brings it or fails. -/
theorem readByte_traced (h : bus.Serves contents Failed) (register : UInt16) {w : ω}
    (log : List (Event ε)) (hchunk : 0 < bus.chunkSize w)
    (hlimit : register.toNat < bus.addressLimit w) :
    ∃ ending value v, bus.traced.readByte register (w, log)
        = ⟨(ending.map fun _ => value).mapError (.bus .read 0),
            (v, log ++ [.bus ⟨.read, register, [value], ending⟩])⟩ ∧
      bus.Keeps Failed w v ∧ contents v = contents w ∧
      (ending = .ok () ∧ value = contents w register.toNat ∨ ∃ e, ending = .error e) := by
  obtain ⟨ending, filled, v, hrun, hkeeps, hsame, hends⟩ := h.readChunk register [0] w
    ⟨Nat.one_pos, hchunk, hlimit⟩
  have hlength := bus.length_readChunk register [0] w
  rw [hrun] at hlength
  obtain ⟨value, rfl⟩ := List.length_eq_one_iff.mp hlength
  refine ⟨ending, value, v, ?_, hkeeps, hsame, ?_⟩
  · have hone := bus.traced.access_one .read (w := (w, log)) 0 hchunk hlimit
    rw [traced_chunk, chunk, hrun, access] at hone
    rw [readByte, hone]
    cases ending <;> rfl
  · rcases hends with ⟨hok, hfilled⟩ | ⟨e, hending, _⟩
    · exact .inl ⟨hok, List.head_eq_of_cons_eq hfilled⟩
    · exact .inr ⟨e, hending⟩

end Serves

end RegisterBus

/-! ### The ways of a detection -/

/-- The identity that is read is checked field by field. -/
theorem identityOutcome_eq (deviceId revisionId : UInt8) :
    (identityOutcome deviceId revisionId : Outcome (AccessError ε) Identity)
      = if deviceId = 0xF0 ∧ revisionId = 0x0C then .ok ⟨0xF0, 0x0C⟩
        else .error (.unknownSensor deviceId revisionId) := by
  simp only [identityOutcome, Identity.expected, Identity.mk.injEq]
  split_ifs with hexpected
  · rw [hexpected.1, hexpected.2]
  · rfl

/-- How a detection goes: what it gives, by which calls, and what the registers hold in
the end. -/
inductive Detection (before : Contents) :
    Outcome (AccessError ε) Identity → List (BusCall ε) → Contents → Prop
  | noPage (e : ε) :
    Detection before (.error (.bus .write 0 e)) [⟨.write, 0x7FFF, [0], .error e⟩] before
  | noDevice (left : UInt8) (e : ε) :
    Detection before (.error (.bus .read 0 e))
      [⟨.write, 0x7FFF, [0], .ok ()⟩, ⟨.read, 0, [left], .error e⟩] (before.patch 0x7FFF [0])
  | noRevision (left : UInt8) (e : ε) :
    Detection before (.error (.bus .read 0 e))
      [⟨.write, 0x7FFF, [0], .ok ()⟩, ⟨.read, 0, [before 0], .ok ()⟩, ⟨.read, 1, [left], .error e⟩]
      (before.patch 0x7FFF [0])
  | complete :
    Detection before (identityOutcome (before 0) (before 1))
      [⟨.write, 0x7FFF, [0], .ok ()⟩, ⟨.read, 0, [before 0], .ok ()⟩,
        ⟨.read, 1, [before 1], .ok ()⟩] (before.patch 0x7FFF [0])

/-- Over a bus that serves registers a detection goes one of its ways. -/
theorem RegisterBus.Serves.detect_traced (h : bus.Serves contents Failed) {w : ω}
    (log : List (Event ε)) (hchunk : 0 < bus.chunkSize w)
    (hlimit : 0x8000 ≤ bus.addressLimit w) :
    ∃ outcome v calls after, bus.traced.detect (w, log) = ⟨outcome, (v, log ++ calls.map .bus)⟩ ∧
      contents v = after ∧ Detection (contents w) outcome calls after := by
  obtain ⟨_, v, hpage, hkeeps, ⟨rfl, hpatch⟩ | ⟨e, rfl, hsame⟩⟩ :=
    h.writeByte_traced pageSelectRegister 0 log hchunk (Nat.lt_of_lt_of_le (by decide) hlimit)
  rotate_left
  · refine ⟨_, v, _, _, ?_, hsame, .noPage e⟩
    simp only [detect, hpage, Outcome.mapError_error, Run.andThen_error]
    rfl
  -- Selecting a page leaves the identity registers as they were.
  have hdeviceId : contents v 0 = contents w 0 := by
    rw [hpatch]
    exact Contents.patch_of_lt _ _ (by decide)
  have hrevisionId : contents v 1 = contents w 1 := by
    rw [hpatch]
    exact Contents.patch_of_lt _ _ (by decide)
  obtain ⟨_, device, u, hdevice, hkeeps', hsame, ⟨rfl, hread⟩ | ⟨e, rfl⟩⟩ :=
    h.readByte_traced deviceIdRegister
      (log ++ [.bus ⟨.write, pageSelectRegister, [0], .ok ()⟩]) (hkeeps.chunkSize ▸ hchunk)
      (Nat.lt_of_lt_of_le (by decide) (hkeeps.addressLimit ▸ hlimit))
  rotate_left
  · refine ⟨_, u, _, _, ?_, hsame.trans hpatch, .noDevice device e⟩
    simp only [detect, hpage, hdevice, Outcome.mapError_ok, Outcome.mapError_error,
      Outcome.map_error, Run.andThen_ok, Run.andThen_error, List.append_assoc]
    rfl
  obtain rfl : device = contents w 0 := hread.trans hdeviceId
  obtain ⟨_, revision, t, hrevision, _, hsame', hends⟩ :=
    h.readByte_traced revisionIdRegister
      (log ++ [.bus ⟨.write, pageSelectRegister, [0], .ok ()⟩] ++
        [.bus ⟨.read, deviceIdRegister, [contents w 0], .ok ()⟩])
      (hkeeps'.chunkSize ▸ hkeeps.chunkSize ▸ hchunk)
      (Nat.lt_of_lt_of_le (by decide) (hkeeps'.addressLimit ▸ hkeeps.addressLimit ▸ hlimit))
  have hafter := hsame'.trans (hsame.trans hpatch)
  rcases hends with ⟨rfl, hread'⟩ | ⟨e, rfl⟩
  · obtain rfl : revision = contents w 1 := by
      rw [hread', hsame]
      exact hrevisionId
    refine ⟨_, t, _, _, ?_, hafter, .complete⟩
    simp only [detect, hpage, hdevice, hrevision, Outcome.mapError_ok, Outcome.map_ok,
      Run.andThen_ok, identityOutcome]
    simp only [List.append_assoc]
    split_ifs <;> rfl
  · refine ⟨_, t, _, _, ?_, hafter, .noRevision revision e⟩
    simp only [detect, hpage, hdevice, hrevision, Outcome.mapError_ok, Outcome.mapError_error,
      Outcome.map_error, Outcome.map_ok, Run.andThen_ok, Run.andThen_error]
    simp only [List.append_assoc]
    rfl

/-! ### Calls, result and registers -/

/-- What a detection does, told by its calls. -/
structure Detects (before after : Contents) (outcome : Outcome (AccessError ε) Identity)
    (calls : List (BusCall ε)) : Prop where
  /-- The calls are the first ones of three. -/
  order : calls.map BusCall.message <+: [.write 0x7FFF [0], .read 0x0000 1, .read 0x0001 1]
  /-- Only the last call may have failed. -/
  stops : ∀ call ∈ calls.dropLast, call.outcome = .ok ()
  /-- All three calls are made if none fails. -/
  goes_on : (∀ call ∈ calls, call.outcome = .ok ()) → calls.length = 3
  /-- A call that does not succeed fails with an error of the bus. -/
  settled : ∀ call ∈ calls, call.outcome.Settled
  /-- A call that fails is reported with its direction and its error. -/
  failed : ∀ call ∈ calls, ∀ e, call.outcome = .error e →
    outcome = .error (.bus call.direction 0 e)
  /-- A read that succeeds brings what its register holds. -/
  bytes : ∀ call ∈ calls, call.direction = .read → call.outcome = .ok () →
    call.bytes = [before call.register.toNat]
  /-- If no call fails, the identity registers decide. -/
  identity : (∀ call ∈ calls, call.outcome = .ok ()) →
    outcome = if before 0 = 0xF0 ∧ before 1 = 0x0C then .ok ⟨0xF0, 0x0C⟩
      else .error (.unknownSensor (before 0) (before 1))
  /-- Page zero is selected if the first call succeeds. -/
  page_selected : (∃ call, calls.head? = some call ∧ call.outcome = .ok ()) → after 0x7FFF = 0
  /-- Otherwise the page stays. -/
  page_kept : (∀ call, calls.head? = some call → call.outcome ≠ .ok ()) →
    after 0x7FFF = before 0x7FFF
  /-- No other register is changed. -/
  others : ∀ address, address ≠ 0x7FFF → after address = before address

theorem Detection.detects {before after : Contents} {outcome : Outcome (AccessError ε) Identity}
    {calls : List (BusCall ε)} (h : Detection before outcome calls after) :
    Detects before after outcome calls where
  order := by
    cases h with
    | noPage => exact ⟨[.read 0 1, .read 1 1], rfl⟩
    | noDevice => exact ⟨[.read 1 1], rfl⟩
    | noRevision => exact ⟨[], rfl⟩
    | complete => exact ⟨[], rfl⟩
  stops := by cases h <;> simp
  goes_on := by cases h <;> simp
  settled := by cases h <;> simp
  failed := by cases h <;> simp
  bytes := by cases h <;> simp
  identity := by cases h <;> simp [identityOutcome_eq]
  page_selected := by cases h <;> simp [Contents.patch_one]
  page_kept := by cases h <;> simp
  others := by cases h <;> simp +contextual [Contents.patch_one]

/-- The chunk calls of a detection, in order. -/
def RegisterBus.detectionCalls (bus : RegisterBus ω ε) (w : ω) : List (BusCall ε) :=
  Event.busCalls (bus.traced.detect (w, [])).world.2

/-- Detection is three calls of which the first one that fails is the last.  It reports that
failure, or else what the identity registers hold, and changes nothing but the page.  It does
so after any jobs, however they ended. -/
theorem detects_after_jobs (bridge : Bridge ι ρ) (hbus : bus.Serves contents Failed) {w : ω}
    (hchunk : 0 < bus.chunkSize w) (hlimit : 0x8000 ≤ bus.addressLimit w)
    (hspace : bus.addressLimit w ≤ 0x10000) (boundary : Boundary μ) (jobs : List (Job μ ι))
    (endpoint : Endpoint ρ) :
    let v := (Job.runAll bridge bus boundary jobs (endpoint, w)).2.2
    let run := bus.detect v
    Detects (contents v) (contents run.world) run.outcome (bus.detectionCalls v) := by
  intro v run
  obtain ⟨_, _, _, _, hjobs, _, hbehaves⟩ :=
    Job.runAll_behaves bridge hbus.answers hchunk hspace boundary jobs endpoint []
  obtain ⟨log, htraced⟩ := Job.runAll_traced bridge boundary bus jobs endpoint w
  obtain rfl : v = _ := congrArg (fun p => p.2.2.1) (htraced.symm.trans hjobs)
  obtain ⟨outcome, u, calls, _, hrun, rfl, hway⟩ := hbus.detect_traced []
    (hbehaves.keeps.chunkSize ▸ hchunk) (hbehaves.keeps.addressLimit ▸ hlimit)
  have hcalls : bus.detectionCalls v = calls := by
    rw [RegisterBus.detectionCalls, hrun, List.nil_append, Event.busCalls_map_bus]
  -- The run without the recorder is the same one.
  obtain ⟨_, _, _, hplain, hsame, rfl⟩ := bus.sim_traced.detect (show Recorded v (v, []) from rfl)
  rw [Outcome.mapError_eq_self AccessError.map_id, hrun] at hsame
  cases hsame
  rw [hcalls]
  simp only [run, hplain]
  exact hway.detects

open Bench in
/-- A detection after two refused jobs, in which the read of the first identity register
fails. -/
theorem detects_after_jobs_refused :
    let bus := Recorder.registerBus
    let recorder : Recorder := { limit := 4, registers := .zero, failOn := some 2 }
    let window : Window := ⟨0x1000, #[7]⟩
    let jobs : List (Job Window Nat) :=
      [.host (.sensor (.write 0 [0xF0, 0x0C])), .host (.sensor (.read 0xFFFF [0, 0])),
        .execute ⟨2, 0, .write, 0x1000⟩ window]
    let endpoint : Endpoint (Readiness Nat) := ⟨Scratch.zero _, .idle⟩
    let v := (Job.runAll Readiness.bridge bus Window.boundary jobs (endpoint, recorder)).2.2
    let run := bus.detect v
    0 < bus.chunkSize recorder ∧
      (bus.detectionCalls v).map BusCall.message = [.write 0x7FFF [0], .read 0x0000 1] ∧
      run.outcome = .error (.bus .read 0 ()) ∧ run.world.registers.contents 0x7FFF = 0 := by
  intro bus recorder window jobs endpoint v run
  have hchunk : 0 < bus.chunkSize recorder := by decide
  have hcalls : bus.detectionCalls v
      = [⟨.write, 0x7FFF, [0], .ok ()⟩, ⟨.read, 0x0000, [0], .error ()⟩] := by decide +kernel
  have hdetects : Detects v.registers.contents run.world.registers.contents run.outcome
      (bus.detectionCalls v) :=
    detects_after_jobs Readiness.bridge Recorder.serves_registerBus hchunk (by decide)
      (Nat.le_refl 0x10000) Window.boundary jobs endpoint
  rw [hcalls] at hdetects ⊢
  exact ⟨hchunk, rfl, hdetects.failed _ (List.mem_cons_of_mem _ List.mem_cons_self) () rfl,
    hdetects.page_selected ⟨_, rfl, rfl⟩⟩

end SensorLink

/-
Sensors as flat arrays of bytes.

A sensor on any bus is meant to look like an array of bytes below a limit: a call
whose registers end at or below the limit reads or overwrites just these, and any
other call is refused and changes nothing.  How the bus cuts a call into chunks, and
how it carries them, must not be seen.

* `SensorCall.onFlat` — the calls on a flat array, which has no errors of a bus;
* `SensorCall.runAll` — calls one after another, on a bus or on an array;
* `run_ends` — one call on a bus that serves registers;
* `runAll_ends` — all calls of a run;
* `RegisterBus.IsFlat`, `Serves.isFlat` — what a sensor on such a bus is to its
  callers;
* `backends_refine_flat` — recorders, and sensors on two wires and on four.
-/
import SensorLink.Proofs.Bench.Serving
import SensorLink.Sensor

namespace SensorLink

variable {ω ε : Type} {bus : RegisterBus ω ε} {contents : ω → Contents} {Failed : ω → Prop}

/-! ### Flat arrays -/

namespace SensorCall

/-- The registers of a call: the first of them, and their number. -/
def span : SensorCall → UInt16 × Nat
  | readByte register => (register, 1)
  | writeByte register _ => (register, 1)
  | read register buffer => (register, buffer.length)
  | write register data => (register, data.length)
  | detect => (pageSelectRegister, 1)

/-- The call ends at or below the limit. -/
def Within (call : SensorCall) (limit : Nat) : Prop :=
  call.span.1.toNat + call.span.2 ≤ limit

instance (call : SensorCall) (limit : Nat) : Decidable (call.Within limit) :=
  inferInstanceAs (Decidable (_ ≤ _))

/-- The buffer that a call is handed. -/
def buffer : SensorCall → Bytes
  | read _ buffer => buffer
  | _ => []

/-- What an array holds after a call. -/
def contentsAfter (contents : Contents) : SensorCall → Contents
  | readByte _ => contents
  | writeByte register value => contents.patch register.toNat [value]
  | read _ _ => contents
  | write register data => contents.patch register.toNat data
  | detect => contents.patch pageSelectRegister.toNat [0]

/-- What a call on an array gives. -/
def value {ε : Type} (contents : Contents) : SensorCall → Outcome (AccessError ε) SensorValue
  | readByte register => .ok (.byte (contents register.toNat))
  | writeByte _ _ => .ok .none
  | read _ _ => .ok .none
  | write _ _ => .ok .none
  | detect =>
    if contents 0 = 0xF0 ∧ contents 1 = 0x0C then .ok (.identity ⟨0xF0, 0x0C⟩)
    else .error (.unknownSensor (contents 0) (contents 1))

/-- The buffer after a call on an array. -/
def filled (contents : Contents) : SensorCall → Bytes
  | read register buffer => contents.read register.toNat buffer.length
  | _ => []

/-- A call on an array of `limit` bytes. -/
def onFlat (limit : Nat) (contents : Contents) (call : SensorCall) :
    Run (Bytes × Contents) (AccessError Empty) SensorValue :=
  if call.Within limit then
    ⟨call.value contents, (call.filled contents, call.contentsAfter contents)⟩
  else ⟨.error (.outOfRange call.span.1 call.span.2), (call.buffer, contents)⟩

/-- Makes calls one after another, and lists what each of them gives and the buffer
it gives back. -/
def runAll {σ δ : Type} (step : σ → SensorCall → Run (Bytes × σ) δ SensorValue) (s : σ) :
    List SensorCall → List (Outcome δ SensorValue × Bytes) × σ
  | [] => ([], s)
  | call :: calls =>
    match step s call with
    | ⟨outcome, (bytes, s)⟩ =>
      match runAll step s calls with
      | (results, s) => ((outcome, bytes) :: results, s)

end SensorCall

/-- The result of a call on an array, as that of a call on a bus. -/
def liftResult (result : Outcome (AccessError Empty) SensorValue × Bytes) :
    Outcome (AccessError ε) SensorValue × Bytes :=
  (result.1.mapError (AccessError.map Empty.elim), result.2)

/-- What the identity registers say. -/
def identityOutcome (deviceId revisionId : UInt8) : Outcome (AccessError ε) Identity :=
  if (⟨deviceId, revisionId⟩ : Identity) = Identity.expected then .ok ⟨deviceId, revisionId⟩
  else .error (.unknownSensor deviceId revisionId)

theorem map_identityOutcome (contents : Contents) :
    (identityOutcome (contents 0) (contents 1)).map SensorValue.identity
      = (SensorCall.detect.value contents : Outcome (AccessError ε) SensorValue) := by
  simp only [identityOutcome, SensorCall.value, Identity.expected, Identity.mk.injEq]
  split
  · rename_i hexpected
    rw [hexpected.1, hexpected.2]
    rfl
  · rfl

/-! ### One call -/

namespace RegisterBus

variable {α β : Type} {w : ω}

/-- Unless a chunk call has failed, the run gives `outcome` and leaves `after` in the
registers. -/
structure Gives (bus : RegisterBus ω ε) (contents : ω → Contents) (Failed : ω → Prop) (w : ω)
    (run : Run ω (AccessError ε) α) (outcome : Outcome (AccessError ε) α) (after : Contents) :
    Prop where
  keeps : bus.Keeps Failed w run.world
  ends : Failed run.world ∨ run.outcome = outcome ∧ contents run.world = after

theorem Gives.andThen {run : Run ω (AccessError ε) α} {a : α} {mid : Contents}
    {next : α → ω → Run ω (AccessError ε) β} (h : bus.Gives contents Failed w run (.ok a) mid)
    (outcome : α → Contents → Outcome (AccessError ε) β) (after : α → Contents → Contents)
    (hnext : ∀ a v, bus.Keeps Failed w v → bus.Gives contents Failed v (next a v)
      (outcome a (contents v)) (after a (contents v))) :
    bus.Gives contents Failed w (run.andThen next) (outcome a mid) (after a mid) := by
  obtain ⟨actual, v⟩ := run
  obtain ⟨hkeeps, hends⟩ := h
  simp only at hkeeps hends
  -- A run that gave no value has failed, and nothing follows it.
  cases actual with
  | ok b =>
    obtain ⟨hkeeps', hends'⟩ := hnext b v hkeeps
    refine ⟨hkeeps.trans hkeeps', ?_⟩
    rcases hends with hfailed | ⟨hvalue, rfl⟩
    · exact .inl (hkeeps'.failed hfailed)
    · cases hvalue
      exact hends'
  | error e => exact ⟨hkeeps, .inl (hends.resolve_right fun h => Outcome.error_ne_ok h.1)⟩
  | trap t => exact ⟨hkeeps, .inl (hends.resolve_right fun h => Outcome.trap_ne_ok h.1)⟩

namespace Serves

theorem writeByte_gives (h : bus.Serves contents Failed) (register : UInt16) (value : UInt8) (w : ω)
    (hchunk : 0 < bus.chunkSize w) (hspace : bus.addressLimit w ≤ registerSpace)
    (hlimit : register.toNat + 1 ≤ bus.addressLimit w) :
    bus.Gives contents Failed w (bus.writeByte register value w) (.ok ())
      ((contents w).patch register.toNat [value]) := by
  obtain ⟨outcome, v, hrun, hkeeps, hends⟩ :=
    h.write_ends register [value] w hchunk hspace hlimit
  rw [writeByte, hrun]
  exact ⟨hkeeps, hends⟩

theorem readByte_gives (h : bus.Serves contents Failed) (register : UInt16) (w : ω)
    (hchunk : 0 < bus.chunkSize w) (hspace : bus.addressLimit w ≤ registerSpace)
    (hlimit : register.toNat + 1 ≤ bus.addressLimit w) :
    bus.Gives contents Failed w (bus.readByte register w) (.ok (contents w register.toNat))
      (contents w) := by
  obtain ⟨outcome, filled, v, hrun, hkeeps, hsame, hends⟩ :=
    h.read_ends register [0] w hchunk hspace hlimit
  simp only [readByte, hrun]
  refine ⟨hkeeps, hends.imp_right ?_⟩
  rintro ⟨rfl, rfl⟩
  exact ⟨rfl, hsame⟩

theorem detect_gives (h : bus.Serves contents Failed) (w : ω) (hchunk : 0 < bus.chunkSize w)
    (hspace : bus.addressLimit w ≤ registerSpace)
    (hlimit : pageSelectRegister.toNat + 1 ≤ bus.addressLimit w) :
    bus.Gives contents Failed w (bus.detect w) (identityOutcome (contents w 0) (contents w 1))
      ((contents w).patch pageSelectRegister.toNat [0]) := by
  have hselect := h.writeByte_gives pageSelectRegister 0 w hchunk hspace hlimit
  -- Selecting the page leaves the identity registers alone.
  have hzero : (contents w).patch pageSelectRegister.toNat [0] 0 = contents w 0 :=
    Contents.patch_of_lt _ _ (by decide)
  have hone : (contents w).patch pageSelectRegister.toNat [0] 1 = contents w 1 :=
    Contents.patch_of_lt _ _ (by decide)
  rw [← hzero, ← hone]
  refine hselect.andThen (fun _ c => identityOutcome (c 0) (c 1)) (fun _ c => c) ?_
  intro _ v hkeeps
  have hchunk' : 0 < bus.chunkSize v := hkeeps.chunkSize ▸ hchunk
  have hspace' : bus.addressLimit v ≤ registerSpace := hkeeps.addressLimit ▸ hspace
  have hlimit' : deviceIdRegister.toNat + 1 ≤ bus.addressLimit v := by
    rw [hkeeps.addressLimit]
    exact Nat.le_trans (by decide) hlimit
  have hdevice := h.readByte_gives deviceIdRegister v hchunk' hspace' hlimit'
  refine hdevice.andThen (fun deviceId c => identityOutcome deviceId (c 1)) (fun _ c => c) ?_
  intro deviceId u hkeeps'
  have hkeeps := hkeeps.trans hkeeps'
  have hchunk' : 0 < bus.chunkSize u := hkeeps.chunkSize ▸ hchunk
  have hspace' : bus.addressLimit u ≤ registerSpace := hkeeps.addressLimit ▸ hspace
  have hlimit' : revisionIdRegister.toNat + 1 ≤ bus.addressLimit u := by
    rw [hkeeps.addressLimit]
    exact Nat.le_trans (by decide) hlimit
  have hrevision := h.readByte_gives revisionIdRegister u hchunk' hspace' hlimit'
  refine hrevision.andThen (fun revisionId _ => identityOutcome deviceId revisionId)
    (fun _ c => c) ?_
  intro revisionId v' _
  rw [identityOutcome]
  split
  · exact ⟨.refl .., .inr ⟨rfl, rfl⟩⟩
  · exact ⟨.refl .., .inr ⟨rfl, rfl⟩⟩

end Serves

end RegisterBus

namespace SensorCall

/-- A call within the limit does what it does on an array, unless a chunk call fails. -/
theorem run_within (h : bus.Serves contents Failed) {call : SensorCall} {w : ω}
    (hchunk : 0 < bus.chunkSize w) (hspace : bus.addressLimit w ≤ registerSpace)
    (hwithin : call.Within (bus.addressLimit w)) :
    ∃ outcome bytes v, call.run bus w = ⟨outcome, (bytes, v)⟩ ∧ bus.Keeps Failed w v ∧
      (Failed v ∨ outcome = call.value (contents w) ∧ bytes = call.filled (contents w) ∧
        contents v = call.contentsAfter (contents w)) := by
  cases call with
  | readByte register =>
    obtain ⟨hkeeps, hends⟩ := h.readByte_gives register w hchunk hspace hwithin
    refine ⟨_, _, _, rfl, hkeeps, hends.imp_right ?_⟩
    rintro ⟨houtcome, hsame⟩
    exact ⟨congrArg (Outcome.map SensorValue.byte) houtcome, rfl, hsame⟩
  | writeByte register value =>
    obtain ⟨hkeeps, hends⟩ := h.writeByte_gives register value w hchunk hspace hwithin
    refine ⟨_, _, _, rfl, hkeeps, hends.imp_right ?_⟩
    rintro ⟨houtcome, hpatch⟩
    exact ⟨congrArg (Outcome.map fun _ => SensorValue.none) houtcome, rfl, hpatch⟩
  | read register buffer =>
    obtain ⟨outcome, filled, v, hrun, hkeeps, hsame, hends⟩ :=
      h.read_ends register buffer w hchunk hspace hwithin
    refine ⟨outcome.map fun _ => .none, filled, v, by rw [run, hrun]; rfl, hkeeps,
      hends.imp_right ?_⟩
    rintro ⟨rfl, rfl⟩
    exact ⟨rfl, rfl, hsame⟩
  | write register data =>
    obtain ⟨outcome, v, hrun, hkeeps, hends⟩ :=
      h.write_ends register data w hchunk hspace hwithin
    refine ⟨outcome.map fun _ => .none, [], v, by rw [run, hrun]; rfl, hkeeps,
      hends.imp_right ?_⟩
    rintro ⟨rfl, hpatch⟩
    exact ⟨rfl, rfl, hpatch⟩
  | detect =>
    obtain ⟨hkeeps, hends⟩ := h.detect_gives w hchunk hspace hwithin
    refine ⟨_, _, _, rfl, hkeeps, hends.imp_right ?_⟩
    rintro ⟨houtcome, hpatch⟩
    refine ⟨(congrArg (Outcome.map SensorValue.identity) houtcome).trans ?_, rfl, hpatch⟩
    exact map_identityOutcome ..

/-- A call past the limit is refused. -/
theorem run_not_within (bus : RegisterBus ω ε) {call : SensorCall} {w : ω}
    (hnot : ¬call.Within (bus.addressLimit w)) :
    call.run bus w
      = ⟨.error (.outOfRange call.span.1 call.span.2), (call.buffer, w)⟩ := by
  have hlt := Nat.not_le.mp hnot
  cases call with
  | readByte register =>
    have hread : bus.read register [0] w = ⟨.error (.outOfRange register 1), ([0], w)⟩ :=
      bus.read_of_lt hlt
    rw [run, RegisterBus.readByte, hread]
    rfl
  | writeByte register value =>
    have hwrite : bus.write register [value] w = ⟨.error (.outOfRange register 1), w⟩ :=
      bus.write_of_lt hlt
    rw [run, RegisterBus.writeByte, hwrite]
    rfl
  | read register buffer =>
    have hread : bus.read register buffer w
        = ⟨.error (.outOfRange register buffer.length), (buffer, w)⟩ := bus.read_of_lt hlt
    rw [run, hread]
    rfl
  | write register data =>
    have hwrite : bus.write register data w
        = ⟨.error (.outOfRange register data.length), w⟩ := bus.write_of_lt hlt
    rw [run, hwrite]
    rfl
  | detect =>
    have hwrite : bus.write pageSelectRegister [0] w
        = ⟨.error (.outOfRange pageSelectRegister 1), w⟩ := bus.write_of_lt hlt
    rw [run, RegisterBus.detect, RegisterBus.writeByte, hwrite]
    rfl

/-- An array has no errors of a bus to lift. -/
theorem liftResult_value (call : SensorCall) (contents : Contents) (bytes : Bytes) :
    (liftResult (call.value contents, bytes) : Outcome (AccessError ε) SensorValue × Bytes)
      = (call.value contents, bytes) := by
  cases call with
  | detect =>
    by_cases hexpected : contents 0 = 0xF0 ∧ contents 1 = 0x0C
    · simp only [liftResult, value, if_pos hexpected, Outcome.mapError_ok]
    · simp only [liftResult, value, if_neg hexpected, Outcome.mapError_error, AccessError.map]
  | _ => rfl

/-- One call on a bus is one call on an array, unless a chunk call fails. -/
theorem run_ends (h : bus.Serves contents Failed) (call : SensorCall) {w : ω}
    (hchunk : 0 < bus.chunkSize w) (hspace : bus.addressLimit w ≤ registerSpace) :
    ∃ outcome bytes v, call.run bus w = ⟨outcome, (bytes, v)⟩ ∧ bus.Keeps Failed w v ∧
      (Failed v ∨
        (outcome, bytes) = liftResult ((call.onFlat (bus.addressLimit w) (contents w)).outcome,
            (call.onFlat (bus.addressLimit w) (contents w)).world.1) ∧
          contents v = (call.onFlat (bus.addressLimit w) (contents w)).world.2) := by
  -- Bus and array agree on which calls are within reach.
  by_cases hwithin : call.Within (bus.addressLimit w)
  · obtain ⟨outcome, bytes, v, hrun, hkeeps, hends⟩ := run_within h hchunk hspace hwithin
    refine ⟨outcome, bytes, v, hrun, hkeeps, hends.imp_right ?_⟩
    rintro ⟨rfl, rfl, hcontents⟩
    simp only [onFlat, if_pos hwithin]
    exact ⟨(liftResult_value call _ _).symm, hcontents⟩
  · refine ⟨_, _, w, run_not_within bus hwithin, .refl .., .inr ?_⟩
    rw [onFlat, if_neg hwithin]
    exact ⟨rfl, rfl⟩

/-! ### Runs of calls -/

/-- A run of calls on a bus is the run of the same calls on an array, unless a chunk
call fails. -/
theorem runAll_ends (h : bus.Serves contents Failed) (calls : List SensorCall) {w : ω}
    (hchunk : 0 < bus.chunkSize w) (hspace : bus.addressLimit w ≤ registerSpace) :
    ∃ results v, runAll (run bus) w calls = (results, v) ∧ bus.Keeps Failed w v ∧
      (Failed v ∨
        results = (runAll (onFlat (bus.addressLimit w)) (contents w) calls).1.map liftResult ∧
          contents v = (runAll (onFlat (bus.addressLimit w)) (contents w) calls).2) := by
  induction calls generalizing w with
  | nil => exact ⟨[], w, rfl, .refl .., .inr ⟨rfl, rfl⟩⟩
  | cons call calls ih =>
    obtain ⟨outcome, bytes, v, hrun, hkeeps, hends⟩ := call.run_ends h hchunk hspace
    obtain ⟨results, u, hrest, hkeeps', hends'⟩ := ih (hkeeps.chunkSize ▸ hchunk)
      (hkeeps.addressLimit ▸ hspace)
    refine ⟨(outcome, bytes) :: results, u, ?_, hkeeps.trans hkeeps', ?_⟩
    · simp only [runAll, hrun, hrest]
    -- A failure at any point of the run is still seen at its end.
    rcases hends with hfailed | ⟨hresult, hcontents⟩
    · exact .inl (hkeeps'.failed hfailed)
    refine hends'.imp_right ?_
    rintro ⟨rfl, hafter⟩
    rw [hkeeps.addressLimit, hcontents] at hafter ⊢
    simp only [runAll, List.map_cons]
    exact ⟨by rw [hresult], hafter⟩

end SensorCall

/-- What a sensor is to its callers as long as no chunk call has failed: an array of
`limit` bytes, which gives back what was written to it. -/
structure RegisterBus.IsFlat (bus : RegisterBus ω ε) (contents : ω → Contents)
    (Failed : ω → Prop) (limit : Nat) (w : ω) : Prop where
  runAll : ∀ calls,
    let run := SensorCall.runAll (SensorCall.run bus) w calls
    let flat := SensorCall.runAll (SensorCall.onFlat limit) (contents w) calls
    ¬Failed run.2 → run.1 = flat.1.map liftResult ∧ contents run.2 = flat.2
  write_read : ∀ register data buffer, buffer.length = data.length →
    register.toNat + data.length ≤ limit →
    let run := SensorCall.runAll (SensorCall.run bus) w
      [.write register data, .read register buffer]
    ¬Failed run.2 → run.1 = [(.ok .none, []), (.ok .none, data)]

/-- An array gives back what was written to it. -/
theorem SensorCall.runAll_onFlat_write_read (limit : Nat) (contents : Contents) {register : UInt16}
    {data buffer : Bytes} (hlength : buffer.length = data.length)
    (hlimit : register.toNat + data.length ≤ limit) :
    (runAll (onFlat limit) contents [.write register data, .read register buffer]).1
      = [(.ok .none, []), (.ok .none, data)] := by
  have hwrite : (SensorCall.write register data).Within limit := hlimit
  have hread : (SensorCall.read register buffer).Within limit := by
    rw [Within, span, hlength]
    exact hlimit
  simp only [runAll, onFlat, if_pos hwrite, if_pos hread, filled, contentsAfter, value, hlength,
    Contents.read_patch_self]

/-- A sensor on a bus that serves registers is flat. -/
theorem RegisterBus.Serves.isFlat (h : bus.Serves contents Failed) {w : ω}
    (hchunk : 0 < bus.chunkSize w) (hspace : bus.addressLimit w ≤ registerSpace) :
    bus.IsFlat contents Failed (bus.addressLimit w) w := by
  constructor
  · intro calls run flat hfault
    obtain ⟨results, v, hrun, _, hends⟩ := SensorCall.runAll_ends h calls hchunk hspace
    have hrun : run = (results, v) := hrun
    rw [hrun] at hfault ⊢
    exact hends.resolve_left hfault
  · intro register data buffer hlength hlimit run hfault
    obtain ⟨results, v, hrun, _, hends⟩ := SensorCall.runAll_ends h
      [.write register data, .read register buffer] hchunk hspace
    have hrun : run = (results, v) := hrun
    rw [hrun] at hfault ⊢
    rw [(hends.resolve_left hfault).1,
      SensorCall.runAll_onFlat_write_read _ _ hlength hlimit]
    rfl

open Bench in
/-- As long as no call has failed, a sensor looks the same on every bus: it is an array
of 0x10000 bytes, or of 0x8000 bytes on four wires. -/
theorem backends_refine_flat :
    (∀ recorder : Recorder, 0 < recorder.limit →
      Recorder.registerBus.IsFlat (fun recorder => recorder.registers.contents) Recorder.Failed
        0x10000 recorder) ∧
      (∀ link : TwoWireLink TwoWireTarget,
        (TwoWireLink.registerBus TwoWireTarget.controller).IsFlat
          (fun link => link.bus.registers.contents) (fun link => link.bus.Failed) 0x10000 link) ∧
      (∀ link : FourWireLink FourWireTarget,
        (FourWireLink.registerBus FourWireTarget.controller).IsFlat
          (fun link => link.bus.registers.contents) (fun link => link.bus.Failed) 0x8000 link) := by
  have htwo : 0 < twoWireChunkSize := by decide
  have hfour : 0 < fourWireChunkSize := by decide
  have hspace : fourWireSpace ≤ registerSpace := by decide
  refine ⟨?_, ?_, ?_⟩
  · intro recorder hlimit
    exact Recorder.serves_registerBus.isFlat (w := recorder) hlimit (Nat.le_refl _)
  · intro link
    exact TwoWireTarget.serves_registerBus.isFlat (w := link) htwo (Nat.le_refl _)
  · intro link
    exact FourWireTarget.serves_registerBus.isFlat (w := link) hfour hspace

open Bench in
/-- Five bytes over a bus that carries three, and a call past the last register. -/
theorem backends_refine_flat_recorder :
    let recorder : Recorder := { limit := 3, registers := .zero }
    let calls : List SensorCall :=
      [.write 0x10 [1, 2, 3, 4, 5], .read 0x10 [0, 0, 0, 0, 0], .writeByte 0xFFFF 6,
        .read 0xFFFF [7, 7]]
    let run := SensorCall.runAll (SensorCall.run Recorder.registerBus) recorder calls
    0 < recorder.limit ∧ ¬run.2.Failed ∧
      run.1 = [(.ok .none, []), (.ok .none, [1, 2, 3, 4, 5]), (.ok .none, []),
        (.error (.outOfRange 0xFFFF 2), [7, 7])] := by
  intro recorder calls run
  have hlimit : 0 < recorder.limit := by decide
  have hfault : ¬run.2.Failed := by
    have hnone : run.2.failOn = none := by decide +kernel
    rintro ⟨n, hn, _⟩
    rw [hnone] at hn
    cases hn
  refine ⟨hlimit, hfault, ?_⟩
  have hflat : (SensorCall.runAll (SensorCall.onFlat 0x10000) recorder.registers.contents
      calls).1.map liftResult = ([(.ok .none, []), (.ok .none, [1, 2, 3, 4, 5]), (.ok .none, []),
        (.error (.outOfRange 0xFFFF 2), [7, 7])] :
          List (Outcome (AccessError Unit) SensorValue × Bytes)) := by decide +kernel
  exact ((backends_refine_flat.1 recorder hlimit).runAll calls hfault).1.trans hflat

end SensorLink

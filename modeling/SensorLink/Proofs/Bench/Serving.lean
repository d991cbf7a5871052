/-
The simulated buses serve the registers of their sensors.

* `Recorder.serves_registerBus` — a bus that records its chunk calls;
* `TwoWireTarget.serves_registerBus` — a sensor on a two-wire bus, read in one
  transaction or in two;
* `FourWireTarget.serves_registerBus` — a sensor on a four-wire bus.

Each of them has a predicate `Failed` that tells from its counters and its schedule
whether a call has failed by now.
-/
import SensorLink.Bench.FourWireTarget
import SensorLink.Bench.Recorder
import SensorLink.Bench.TwoWireTarget
import SensorLink.Proofs.Register.Serving
import SensorLink.Proofs.Wire.Hearing

namespace SensorLink.Bench

/-! ### Recorders -/

namespace Recorder

/-- The call that fails has been made. -/
def Failed (recorder : Recorder) : Prop :=
  ∃ n, recorder.failOn = some n ∧ n < recorder.log.size

/-- A call within the limit is recorded, and fails if it is its turn. -/
theorem record_of_le (call : ChunkCall) (recorder : Recorder) (h : call.length ≤ recorder.limit) :
    ∃ outcome log, recorder.record call = ⟨outcome, { recorder with log := log }⟩ ∧
      (recorder.Failed → Failed { recorder with log := log }) ∧
      (outcome = .ok () ∨ outcome = .error () ∧ Failed { recorder with log := log }) := by
  obtain ⟨limit, registers, failOn, log⟩ := recorder
  have hsize : (log.push call).size = log.size + 1 := Array.size_push ..
  refine ⟨_, log.push call, if_neg (Nat.not_lt.mpr h), ?_, ?_⟩
  · rintro ⟨n, hn, hlt⟩
    exact ⟨n, hn, by simp only at hlt ⊢; omega⟩
  -- The number of the call is the size of the record before it.
  · by_cases hfail : failOn = some log.size
    · exact .inr ⟨if_pos hfail, log.size, hfail, by simp only; omega⟩
    · exact .inl (if_neg hfail)

theorem serves_registerBus :
    registerBus.Serves (fun recorder => recorder.registers.contents) Failed where
  readChunk register buffer recorder hreach := by
    have hspace : register.toNat + buffer.length ≤ registerSpace := hreach.le_addressLimit
    obtain ⟨outcome, log, hrecord, hfailed, hends⟩ :=
      record_of_le ⟨.read, register, buffer.length⟩ recorder hreach.le_chunkSize
    rcases hends with rfl | ⟨rfl, hnow⟩
    · refine ⟨.ok (), recorder.registers.read register buffer.length, { recorder with log := log },
        ?_, ⟨rfl, rfl, hfailed⟩, rfl, .inl ⟨rfl, recorder.registers.read_eq_contents hspace⟩⟩
      simp only [registerBus, readChunk, hrecord, if_pos hspace]
    · refine ⟨.error (), buffer, { recorder with log := log }, ?_, ⟨rfl, rfl, hfailed⟩, rfl,
        .inr ⟨(), rfl, hnow⟩⟩
      simp only [registerBus, readChunk, hrecord]
  writeChunk register data recorder hreach := by
    have hspace : register.toNat + data.length ≤ registerSpace := hreach.le_addressLimit
    obtain ⟨outcome, log, hrecord, hfailed, hends⟩ :=
      record_of_le ⟨.write, register, data.length⟩ recorder hreach.le_chunkSize
    rcases hends with rfl | ⟨rfl, hnow⟩
    · refine ⟨.ok (),
        ⟨recorder.limit, recorder.registers.write register data, recorder.failOn, log⟩, ?_,
        ⟨rfl, rfl, hfailed⟩, .inl ⟨rfl, recorder.registers.contents_write hspace⟩⟩
      simp only [registerBus, writeChunk, hrecord, Run.andThen_ok, if_pos hspace]
    · refine ⟨.error (), { recorder with log := log }, ?_, ⟨rfl, rfl, hfailed⟩,
        .inr ⟨(), rfl, rfl, hnow⟩⟩
      simp only [registerBus, writeChunk, hrecord, Run.andThen_error]

end Recorder

/-! ### Sensors on a two-wire bus -/

namespace TwoWireTarget

/-- More transactions were attempted than succeed. -/
def Failed (target : TwoWireTarget) : Prop :=
  ∃ n, target.failAfter = some n ∧ n < target.attempts

theorem accept_ends (message : TwoWireMessage) (target : TwoWireTarget) :
    ∃ outcome log,
      target.accept message
          = ⟨outcome, { target with attempts := target.attempts + 1, log := log }⟩ ∧
        (target.Failed → Failed { target with attempts := target.attempts + 1, log := log }) ∧
        (outcome = .ok () ∨ ∃ e, outcome = .error e ∧
          Failed { target with attempts := target.attempts + 1, log := log }) := by
  obtain ⟨registers, pointer, attempts, failAfter, log⟩ := target
  have hmono : ∀ log', Failed ⟨registers, pointer, attempts, failAfter, log⟩ →
      Failed ⟨registers, pointer, attempts + 1, failAfter, log'⟩ := by
    rintro log' ⟨n, hn, hlt⟩
    exact ⟨n, hn, Nat.lt_succ_of_lt hlt⟩
  by_cases hfail : failAfter.any (· < attempts + 1)
  · refine ⟨.error .other, log, if_pos hfail, hmono log, .inr ⟨.other, rfl, ?_⟩⟩
    obtain ⟨n, hn, hlt⟩ := (Option.any_eq_true ..).mp hfail
    exact ⟨n, hn, of_decide_eq_true hlt⟩
  · exact ⟨.ok (), log.push message, if_neg hfail, hmono _, .inl rfl⟩

theorem receive_header {register : UInt16} {data : Bytes} (target : TwoWireTarget)
    (h : register.toNat + data.length ≤ registerSpace) :
    target.receive (header register ++ data)
      = ⟨.ok (), { target with
          registers := target.registers.write register data, pointer := register }⟩ := by
  simp only [receive, splitHeader?_header, if_pos h]

theorem stream_of_le {buffer : Bytes} (target : TwoWireTarget)
    (h : target.pointer.toNat + buffer.length ≤ registerSpace) :
    target.stream buffer
      = ⟨.ok (), (target.registers.contents.read target.pointer.toNat buffer.length, target)⟩ := by
  rw [stream, if_pos h, target.registers.read_eq_contents h]

/-- A message with a header stores what follows it, unless it fails. -/
theorem write_header (address : UInt8) {register : UInt16} {data : Bytes} (target : TwoWireTarget)
    (h : register.toNat + data.length ≤ registerSpace) :
    ∃ outcome v, target.write address (header register ++ data) = ⟨outcome, v⟩ ∧
      (target.Failed → v.Failed) ∧
      (outcome = .ok () ∧ v.pointer = register ∧
          v.registers.contents = target.registers.contents.patch register.toNat data ∨
        ∃ e, outcome = .error e ∧ v.registers.contents = target.registers.contents ∧ v.Failed) := by
  obtain ⟨outcome, log, haccept, hfailed, hends⟩ :=
    target.accept_ends (.write address (header register ++ data))
  simp only [write, haccept]
  rcases hends with rfl | ⟨e, rfl, hnow⟩
  · rw [Run.andThen_ok, receive_header _ h]
    exact ⟨_, _, rfl, hfailed, .inl ⟨rfl, rfl, target.registers.contents_write h⟩⟩
  · exact ⟨_, _, rfl, hfailed, .inr ⟨e, rfl, rfl, hnow⟩⟩

/-- A read gives the registers from the pointer up, unless it fails. -/
theorem read_ends (address : UInt8) {buffer : Bytes} (target : TwoWireTarget)
    (h : target.pointer.toNat + buffer.length ≤ registerSpace) :
    ∃ outcome filled v, target.read address buffer = ⟨outcome, (filled, v)⟩ ∧
      (target.Failed → v.Failed) ∧ v.registers = target.registers ∧
      (outcome = .ok () ∧
          filled = target.registers.contents.read target.pointer.toNat buffer.length ∨
        ∃ e, outcome = .error e ∧ v.Failed) := by
  obtain ⟨outcome, log, haccept, hfailed, hends⟩ :=
    target.accept_ends (.read address buffer.length)
  simp only [read, haccept]
  rcases hends with rfl | ⟨e, rfl, hnow⟩
  · refine ⟨_, _, _, stream_of_le _ ?_, hfailed, rfl, .inl ⟨rfl, rfl⟩⟩
    exact h
  · exact ⟨_, _, _, rfl, hfailed, rfl, .inr ⟨e, rfl, hnow⟩⟩

/-- A combined transaction gives the registers that its header names, unless it
fails. -/
theorem writeRead_ends (address : UInt8) {register : UInt16} {buffer : Bytes}
    (target : TwoWireTarget) (h : register.toNat + buffer.length ≤ registerSpace) :
    ∃ outcome filled v, target.writeRead address (header register) buffer = ⟨outcome, (filled, v)⟩ ∧
      (target.Failed → v.Failed) ∧ v.registers.contents = target.registers.contents ∧
      (outcome = .ok () ∧ filled = target.registers.contents.read register.toNat buffer.length ∨
        ∃ e, outcome = .error e ∧ v.Failed) := by
  have hheader : (header register).take headerLength = header register ++ [] := by
    rw [List.append_nil, List.take_of_length_le (Nat.le_of_eq (length_header register))]
  have hspace : register.toNat + ([] : Bytes).length ≤ registerSpace :=
    Nat.le_trans (Nat.add_le_add_left (Nat.zero_le _) _) h
  have hsame : (target.registers.write register []).contents = target.registers.contents := by
    rw [RegisterFile.contents_write _ hspace, Contents.patch_nil]
  obtain ⟨outcome, log, haccept, hfailed, hends⟩ :=
    target.accept_ends (.writeRead address (header register) buffer.length)
  simp only [writeRead, haccept]
  rcases hends with rfl | ⟨e, rfl, hnow⟩
  · rw [Run.andThen_ok, hheader, receive_header _ hspace]
    exact ⟨_, _, _, stream_of_le _ h, hfailed, hsame, .inl ⟨rfl, by rw [hsame]⟩⟩
  · exact ⟨_, _, _, rfl, hfailed, rfl, .inr ⟨e, rfl, hnow⟩⟩

theorem hears_controller :
    controller.Hears (fun target => target.registers.contents) pointer Failed where
  write address _ _ target hspace := target.write_header address hspace
  read address buffer target hspace := by
    obtain ⟨outcome, filled, v, hrun, hfailed, hsame, hends⟩ := target.read_ends address hspace
    exact ⟨outcome, filled, v, hrun, hfailed, congrArg RegisterFile.contents hsame, hends⟩
  writeRead address _ _ target hspace := target.writeRead_ends address hspace

theorem serves_registerBus :
    (TwoWireLink.registerBus controller).Serves (fun link => link.bus.registers.contents)
      (fun link => link.bus.Failed) :=
  TwoWireLink.serves_registerBus hears_controller

end TwoWireTarget

/-! ### Sensors on a four-wire bus -/

namespace FourWireTarget

/-- More exchanges were recorded than succeed. -/
def Failed (target : FourWireTarget) : Prop :=
  ∃ n, target.failAfter = some n ∧ n < target.log.size

/-- An exchange fails, or is answered according to its header. -/
theorem exchange_header (first : UInt16) (data : Bytes) (target : FourWireTarget) :
    ∃ log, (target.Failed → Failed { target with log := log }) ∧
      (target.exchange (header first ++ data) = serve first data { target with log := log } ∨
        ∃ e, target.exchange (header first ++ data)
            = ⟨.error e, (header first ++ data, { target with log := log })⟩ ∧
          Failed { target with log := log }) := by
  obtain ⟨registers, failAfter, log⟩ := target
  have hsize : (log.push (header first ++ data)).size = log.size + 1 := Array.size_push ..
  refine ⟨log.push (header first ++ data), ?_, ?_⟩
  · rintro ⟨n, hn, hlt⟩
    exact ⟨n, hn, by simp only at hlt ⊢; omega⟩
  -- The exchange at hand is counted, too.
  · by_cases hfail : failAfter.any (· < log.size + 1)
    · obtain ⟨n, hn, hlt⟩ := (Option.any_eq_true ..).mp hfail
      refine .inr ⟨.other, by rw [exchange, if_pos hfail], n, hn, ?_⟩
      rw [hsize]
      exact of_decide_eq_true hlt
    · left
      simp only [exchange, if_neg hfail, splitHeader?_header]

theorem serve_read {register : UInt16} {data : Bytes} (target : FourWireTarget)
    (hlow : register.toNat < fourWireSpace) (h : register.toNat + data.length ≤ registerSpace) :
    target.serve register data
      = ⟨.ok (), (idleHeader ++ target.registers.contents.read register.toNat data.length,
          target)⟩ := by
  simp only [serve, and_not_directionBit hlow, and_directionBit hlow, if_neg (Nat.not_lt.mpr h),
    target.registers.read_eq_contents h]
  rfl

theorem serve_write {register : UInt16} {data : Bytes} (target : FourWireTarget)
    (hlow : register.toNat < fourWireSpace) (h : register.toNat + data.length ≤ registerSpace) :
    target.serve (register ||| directionBit) data
      = ⟨.ok (), (idleHeader ++ data,
          { target with registers := target.registers.write register data })⟩ := by
  simp only [serve, or_directionBit_and_not hlow, if_neg (Nat.not_lt.mpr h),
    if_pos (or_directionBit_and_self register)]

/-- A read is one exchange, which brings the registers after an idle header. -/
theorem readChunk_link (settings : FourWireSettings) (scratch : Scratch fourWireTransferSize)
    {register : UInt16} {buffer answer : Bytes} {target v : FourWireTarget}
    {outcome : Outcome FourWireError Unit} (hsize : buffer.length ≤ fourWireChunkSize)
    (hlow : register.toNat < fourWireSpace)
    (h : target.exchange (header register ++ List.replicate buffer.length 0)
      = ⟨outcome, (answer, v)⟩) :
    ∃ scratch', FourWireLink.readChunk controller register buffer ⟨settings, scratch, target⟩
      = match outcome with
        | .ok _ => ⟨.ok (), (answer.drop headerLength, ⟨settings, scratch', v⟩)⟩
        | .error e => ⟨.error e, (buffer, ⟨settings, scratch', v⟩)⟩
        | .trap t => ⟨.trap t, (buffer, ⟨settings, scratch', v⟩)⟩ := by
  have htransfer : headerLength + buffer.length ≤ fourWireTransferSize :=
    Nat.add_le_of_le_sub' (by decide) hsize
  have hmessage : (header register ++ List.replicate buffer.length 0).length
      ≤ fourWireTransferSize := by
    rwa [List.length_append, length_header, List.length_replicate]
  refine ⟨(scratch.put (header register ++ List.replicate buffer.length 0)).put answer, ?_⟩
  rw [FourWireLink.readChunk, if_neg (Nat.not_lt.mpr hsize), and_directionBit hlow,
    if_neg (fun h => h rfl), if_neg (Nat.not_lt.mpr htransfer)]
  simp only [FourWireLink.exchange, scratch.front_put hmessage, controller, h]
  cases outcome <;> rfl

/-- A write is one exchange, whose answer does not matter. -/
theorem writeChunk_link (settings : FourWireSettings) (scratch : Scratch fourWireTransferSize)
    {register : UInt16} {data answer : Bytes} {target v : FourWireTarget}
    {outcome : Outcome FourWireError Unit} (hsize : data.length ≤ fourWireChunkSize)
    (hlow : register.toNat < fourWireSpace)
    (h : target.exchange (header (register ||| directionBit) ++ data) = ⟨outcome, (answer, v)⟩) :
    ∃ scratch', FourWireLink.writeChunk controller register data ⟨settings, scratch, target⟩
      = ⟨outcome, ⟨settings, scratch', v⟩⟩ := by
  have htransfer : headerLength + data.length ≤ fourWireTransferSize :=
    Nat.add_le_of_le_sub' (by decide) hsize
  have hmessage : (header (register ||| directionBit) ++ data).length ≤ fourWireTransferSize := by
    rwa [List.length_append, length_header]
  refine ⟨(scratch.put (header (register ||| directionBit) ++ data)).put answer, ?_⟩
  rw [FourWireLink.writeChunk, if_neg (Nat.not_lt.mpr hsize), and_directionBit hlow,
    if_neg (fun h => h rfl), if_neg (Nat.not_lt.mpr htransfer)]
  simp only [FourWireLink.exchange, scratch.front_put hmessage, controller, h, Run.mapWorld]

theorem serves_registerBus :
    (FourWireLink.registerBus controller).Serves (fun link => link.bus.registers.contents)
      (fun link => link.bus.Failed) where
  readChunk register buffer link hreach := by
    obtain ⟨settings, scratch, target⟩ := link
    have hsize : buffer.length ≤ fourWireChunkSize := hreach.le_chunkSize
    have hlimit : register.toNat + buffer.length ≤ fourWireSpace := hreach.le_addressLimit
    have hlow : register.toNat < fourWireSpace := hreach.register_lt
    have hzeros : (List.replicate buffer.length (0 : UInt8)).length = buffer.length :=
      List.length_replicate
    have hspace : register.toNat + (List.replicate buffer.length (0 : UInt8)).length
        ≤ registerSpace := by
      rw [hzeros]
      exact Nat.le_trans hlimit (by decide)
    obtain ⟨log, hfailed, hends⟩ :=
      target.exchange_header register (List.replicate buffer.length 0)
    rcases hends with hserve | ⟨e, herror, hnow⟩
    · rw [serve_read _ hlow hspace, hzeros] at hserve
      obtain ⟨scratch', hrun⟩ := readChunk_link settings scratch hsize hlow hserve
      exact ⟨_, _, _, hrun, ⟨rfl, rfl, hfailed⟩, rfl, .inl ⟨rfl, rfl⟩⟩
    · obtain ⟨scratch', hrun⟩ := readChunk_link settings scratch hsize hlow herror
      exact ⟨_, _, _, hrun, ⟨rfl, rfl, hfailed⟩, rfl, .inr ⟨e, rfl, hnow⟩⟩
  writeChunk register data link hreach := by
    obtain ⟨settings, scratch, target⟩ := link
    have hsize : data.length ≤ fourWireChunkSize := hreach.le_chunkSize
    have hlimit : register.toNat + data.length ≤ fourWireSpace := hreach.le_addressLimit
    have hlow : register.toNat < fourWireSpace := hreach.register_lt
    have hspace : register.toNat + data.length ≤ registerSpace :=
      Nat.le_trans hlimit (by decide)
    obtain ⟨log, hfailed, hends⟩ := target.exchange_header (register ||| directionBit) data
    rcases hends with hserve | ⟨e, herror, hnow⟩
    · rw [serve_write _ hlow hspace] at hserve
      obtain ⟨scratch', hrun⟩ := writeChunk_link settings scratch hsize hlow hserve
      exact ⟨_, _, hrun, ⟨rfl, rfl, hfailed⟩, .inl ⟨rfl, target.registers.contents_write hspace⟩⟩
    · obtain ⟨scratch', hrun⟩ := writeChunk_link settings scratch hsize hlow herror
      exact ⟨_, _, hrun, ⟨rfl, rfl, hfailed⟩, .inr ⟨e, rfl, rfl, hnow⟩⟩

end FourWireTarget

end SensorLink.Bench

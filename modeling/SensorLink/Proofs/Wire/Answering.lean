/-
Links that always answer.

A link sends only messages that make sense to a sensor: a header, and data that ends
inside of the register space.  If a controller answers these, so does the link, whatever
else the controller may do.  The links check no range of their own for that: staging
buffer, exchange buffer and direction bit are safe because chunks are within reach.

* `TwoWireBus.Answers`, `FourWireBus.Answers` — the messages a controller has to answer;
* `TwoWireLink.answers_registerBus`, `FourWireLink.answers_registerBus`,
  `Binding.answers_registerBus` — the links answer;
* `Link.answers_registerBus` — so do simulated sensors, behind any schedule of faults.
-/
import SensorLink.Bench.Link
import SensorLink.Proofs.Register.Answering

namespace SensorLink

variable {σ ε δ : Type}

/-! ### Two wires -/

/-- The controller answers the messages of a link.  A read of its own follows the header of
what is to be read. -/
structure TwoWireBus.Answers (controller : TwoWireBus σ ε) : Prop where
  write : ∀ target register data s, register.toNat + data.length ≤ registerSpace →
    (controller.write target (header register ++ data) s).outcome.Settled
  writeRead : ∀ target register buffer s, register.toNat + buffer.length ≤ registerSpace →
    (controller.writeRead target (header register) buffer s).outcome.Settled
  read : ∀ target register buffer s s', register.toNat + buffer.length ≤ registerSpace →
    controller.write target (header register) s = ⟨.ok (), s'⟩ →
    (controller.read target buffer s').outcome.Settled

theorem TwoWireLink.answers_registerBus {controller : TwoWireBus σ ε} (h : controller.Answers) :
    (registerBus controller).Answers where
  readChunk register buffer link hreach := by
    obtain ⟨settings, staging, s⟩ := link
    have hspace : register.toNat + buffer.length ≤ registerSpace := hreach.le_addressLimit
    have hsize : ¬twoWireChunkSize < buffer.length := Nat.not_lt.mpr hreach.le_chunkSize
    refine ⟨?_, rfl, rfl, id⟩
    simp only [registerBus, readChunk, if_neg hsize]
    by_cases hcombined : settings.combined
    · rw [if_pos hcombined]
      exact h.writeRead settings.address register buffer s hspace
    -- The header is a message without data.
    · have hheader := h.write settings.address register [] s
        (Nat.le_trans (Nat.add_le_add_left (Nat.zero_le _) _) hspace)
      rw [List.append_nil] at hheader
      rw [if_neg hcombined]
      obtain ⟨⟨outcome, s'⟩, hwrite⟩ : ∃ run,
        controller.write settings.address (header register) s = run := ⟨_, rfl⟩
      rw [hwrite] at hheader ⊢
      cases outcome with
      | ok => exact h.read settings.address register buffer s s' hspace hwrite
      | error e => trivial
      | trap t => exact hheader
  writeChunk register data link hreach := by
    obtain ⟨settings, staging, s⟩ := link
    have hsize : data.length ≤ twoWireChunkSize := hreach.le_chunkSize
    have hfits : headerLength + data.length ≤ headerLength + twoWireChunkSize :=
      Nat.add_le_add_left hsize headerLength
    have hfront : (staging.put (header register ++ data)).front (headerLength + data.length)
        = header register ++ data :=
      staging.front_put_of_length (by rw [List.length_append, length_header]) hfits
    refine ⟨?_, rfl, rfl, id⟩
    simp only [registerBus, writeChunk, if_neg (Nat.not_lt.mpr hsize),
      if_neg (Nat.not_lt.mpr hfits), hfront]
    exact h.write settings.address register data s hreach.le_addressLimit

/-! ### Four wires -/

/-- The controller answers the exchanges of a link, reads as well as writes. -/
structure FourWireBus.Answers (controller : FourWireBus σ ε) : Prop where
  read : ∀ register data s, 0 < data.length → register.toNat + data.length ≤ fourWireSpace →
    (controller.exchange (header register ++ data) s).outcome.Settled
  write : ∀ register data s, 0 < data.length → register.toNat + data.length ≤ fourWireSpace →
    (controller.exchange (header (register ||| directionBit) ++ data) s).outcome.Settled

namespace FourWireLink

/-- A message that fits into the exchange buffer is sent as it is. -/
theorem outcome_exchange (controller : FourWireBus σ ε) {message : Bytes} (link : FourWireLink σ)
    (h : message.length ≤ fourWireTransferSize) :
    (link.exchange controller message).outcome
      = (controller.exchange message link.bus).outcome := by
  obtain ⟨settings, scratch, s⟩ := link
  simp only [exchange, scratch.front_put h]

theorem answers_registerBus {controller : FourWireBus σ ε} (h : controller.Answers) :
    (registerBus controller).Answers where
  readChunk register buffer link hreach := by
    have hsize : buffer.length ≤ fourWireChunkSize := hreach.le_chunkSize
    have hfits : headerLength + buffer.length ≤ fourWireTransferSize :=
      Nat.add_le_of_le_sub' (by decide) hsize
    have hzeros : (List.replicate buffer.length (0 : UInt8)).length = buffer.length :=
      List.length_replicate
    have hmessage : (header register ++ List.replicate buffer.length 0).length
        ≤ fourWireTransferSize := by
      rwa [List.length_append, length_header, hzeros]
    have hanswer := h.read register (List.replicate buffer.length 0) link.bus
      (hzeros.symm ▸ hreach.pos) (hzeros.symm ▸ hreach.le_addressLimit)
    rw [← link.outcome_exchange controller hmessage] at hanswer
    refine ⟨?_, rfl, rfl, id⟩
    simp only [registerBus, readChunk, if_neg (Nat.not_lt.mpr hsize),
      and_directionBit hreach.register_lt, if_neg (fun h : (0 : UInt16) ≠ 0 => h rfl),
      if_neg (Nat.not_lt.mpr hfits)]
    obtain ⟨⟨outcome, answer, link'⟩, hrun⟩ : ∃ run, link.exchange controller
      (header register ++ List.replicate buffer.length 0) = run := ⟨_, rfl⟩
    rw [hrun] at hanswer ⊢
    cases outcome with
    | ok => trivial
    | error e => trivial
    | trap t => exact hanswer
  writeChunk register data link hreach := by
    have hsize : data.length ≤ fourWireChunkSize := hreach.le_chunkSize
    have hfits : headerLength + data.length ≤ fourWireTransferSize :=
      Nat.add_le_of_le_sub' (by decide) hsize
    have hmessage : (header (register ||| directionBit) ++ data).length
        ≤ fourWireTransferSize := by
      rwa [List.length_append, length_header]
    have hanswer := h.write register data link.bus hreach.pos hreach.le_addressLimit
    rw [← link.outcome_exchange controller hmessage] at hanswer
    refine ⟨?_, rfl, rfl, id⟩
    simp only [registerBus, writeChunk, if_neg (Nat.not_lt.mpr hsize),
      and_directionBit hreach.register_lt, if_neg (fun h : (0 : UInt16) ≠ 0 => h rfl),
      if_neg (Nat.not_lt.mpr hfits)]
    exact hanswer

end FourWireLink

/-! ### Either of them -/

theorem Binding.answers_registerBus {α β : Type} {twoWireBus : RegisterBus α ε}
    {fourWireBus : RegisterBus β δ} (htwo : twoWireBus.Answers) (hfour : fourWireBus.Answers) :
    (registerBus twoWireBus fourWireBus).Answers where
  readChunk register buffer binding hreach := by
    obtain ⟨hpos, hsize, hlimit⟩ := hreach
    cases binding with
    | twoWire bus =>
      obtain ⟨hanswer, hkeeps⟩ := htwo.readChunk register buffer bus ⟨hpos, hsize, hlimit⟩
      exact ⟨(Outcome.settled_mapError ..).mpr hanswer, hkeeps.chunkSize, hkeeps.addressLimit, id⟩
    | fourWire bus =>
      obtain ⟨hanswer, hkeeps⟩ := hfour.readChunk register buffer bus ⟨hpos, hsize, hlimit⟩
      exact ⟨(Outcome.settled_mapError ..).mpr hanswer, hkeeps.chunkSize, hkeeps.addressLimit, id⟩
  writeChunk register data binding hreach := by
    obtain ⟨hpos, hsize, hlimit⟩ := hreach
    cases binding with
    | twoWire bus =>
      obtain ⟨hanswer, hkeeps⟩ := htwo.writeChunk register data bus ⟨hpos, hsize, hlimit⟩
      exact ⟨(Outcome.settled_mapError ..).mpr hanswer, hkeeps.chunkSize, hkeeps.addressLimit, id⟩
    | fourWire bus =>
      obtain ⟨hanswer, hkeeps⟩ := hfour.writeChunk register data bus ⟨hpos, hsize, hlimit⟩
      exact ⟨(Outcome.settled_mapError ..).mpr hanswer, hkeeps.chunkSize, hkeeps.addressLimit, id⟩

/-! ### Simulated sensors -/

namespace Bench

theorem TwoWireTarget.answers_controller : controller.Answers where
  write address register data target hspace := by
    obtain ⟨outcome, v, hwrite, _, hends⟩ := target.write_header address hspace
    simp only [controller, hwrite]
    rcases hends with ⟨rfl, _⟩ | ⟨e, rfl, _⟩
    · trivial
    · trivial
  writeRead address register buffer target hspace := by
    obtain ⟨outcome, filled, v, hrun, _, _, hends⟩ := target.writeRead_ends address hspace
    simp only [controller, hrun]
    rcases hends with ⟨rfl, _⟩ | ⟨e, rfl, _⟩
    · trivial
    · trivial
  read address register buffer target target' hspace hwrite := by
    -- The header has set the pointer to the register.
    have hheader : register.toNat + ([] : Bytes).length ≤ registerSpace :=
      Nat.le_trans (Nat.add_le_add_left (Nat.zero_le _) _) hspace
    obtain ⟨outcome, v, hwrite', _, hends⟩ := target.write_header address hheader
    rw [List.append_nil] at hwrite'
    obtain ⟨rfl, rfl⟩ : outcome = .ok () ∧ v = target' := by
      have := hwrite'.symm.trans hwrite
      exact ⟨congrArg Run.outcome this, congrArg Run.world this⟩
    have hpointer : v.pointer = register := by
      rcases hends with ⟨_, hpointer, _⟩ | ⟨e, he, _⟩
      · exact hpointer
      · cases he
    obtain ⟨outcome, filled, u, hrun, _, _, hends⟩ :=
      v.read_ends address (hpointer.symm ▸ hspace)
    simp only [controller, hrun]
    rcases hends with ⟨rfl, _⟩ | ⟨e, rfl, _⟩
    · trivial
    · trivial

theorem FourWireTarget.answers_controller : controller.Answers where
  read register data target hpos hlimit := by
    have hlow : register.toNat < fourWireSpace := by omega
    have hspace : register.toNat + data.length ≤ registerSpace :=
      Nat.le_trans hlimit (by decide)
    obtain ⟨log, _, hserve | ⟨e, herror, _⟩⟩ := target.exchange_header register data
    · simp only [controller, hserve, serve_read _ hlow hspace, Outcome.settled_ok]
    · simp only [controller, herror, Outcome.settled_error]
  write register data target hpos hlimit := by
    have hlow : register.toNat < fourWireSpace := by omega
    have hspace : register.toNat + data.length ≤ registerSpace :=
      Nat.le_trans hlimit (by decide)
    obtain ⟨log, _, hserve | ⟨e, herror, _⟩⟩ :=
      target.exchange_header (register ||| directionBit) data
    · simp only [controller, hserve, serve_write _ hlow hspace, Outcome.settled_ok]
    · simp only [controller, herror, Outcome.settled_error]

namespace Faulty

theorem settled_send {call : σ → Run σ ε Unit} {faulty : Faulty σ ε}
    (h : (call faulty.inner).outcome.Settled) : (send call faulty).outcome.Settled := by
  obtain ⟨schedule, inner⟩ := faulty
  rw [send]
  split
  · trivial
  · exact h

theorem settled_fill {spoiled : Nat → Bytes → Bytes} {buffer : Bytes}
    {call : σ → Run (Bytes × σ) ε Unit} {faulty : Faulty σ ε}
    (h : (call faulty.inner).outcome.Settled) :
    (fill spoiled buffer call faulty).outcome.Settled := by
  obtain ⟨schedule, inner⟩ := faulty
  rw [fill]
  split
  · trivial
  · exact h

/-- A call that succeeds has reached what is behind the schedule. -/
theorem send_eq_ok {call : σ → Run σ ε Unit} {faulty faulty' : Faulty σ ε}
    (h : send call faulty = ⟨.ok (), faulty'⟩) : call faulty.inner = ⟨.ok (), faulty'.inner⟩ := by
  obtain ⟨schedule, inner⟩ := faulty
  rw [send] at h
  split at h
  · cases h
  · obtain ⟨⟨outcome, s⟩, hrun⟩ : ∃ run, call inner = run := ⟨_, rfl⟩
    rw [hrun] at h
    cases h
    exact hrun

theorem answers_twoWire {controller : TwoWireBus σ ε} (h : controller.Answers) :
    (twoWire controller).Answers where
  write address register data _ hspace := settled_send (h.write address register data _ hspace)
  writeRead address register buffer _ hspace :=
    settled_fill (h.writeRead address register buffer _ hspace)
  read address register buffer _ _ hspace hwrite :=
    settled_fill (h.read address register buffer _ _ hspace (send_eq_ok hwrite))

theorem answers_fourWire {controller : FourWireBus σ ε} (h : controller.Answers) :
    (fourWire controller).Answers where
  read register data _ hpos hlimit := settled_fill (h.read register data _ hpos hlimit)
  write register data _ hpos hlimit := settled_fill (h.write register data _ hpos hlimit)

end Faulty

theorem TwoWireRig.answers_registerBus : registerBus.Answers :=
  TwoWireLink.answers_registerBus (Faulty.answers_twoWire TwoWireTarget.answers_controller)

theorem FourWireRig.answers_registerBus : registerBus.Answers :=
  FourWireLink.answers_registerBus (Faulty.answers_fourWire FourWireTarget.answers_controller)

/-- Simulated sensors always answer, on whichever wires and whatever is planned to fail. -/
theorem Link.answers_registerBus : registerBus.Answers :=
  Binding.answers_registerBus TwoWireRig.answers_registerBus FourWireRig.answers_registerBus

end Bench

end SensorLink

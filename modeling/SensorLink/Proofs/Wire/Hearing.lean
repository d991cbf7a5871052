/-
Two-wire controllers with a sensor that keeps a register pointer.

The sensor takes its pointer from the header of every message, and streams registers from
there.  The pointer stays behind when a transfer is over, or fails halfway.  A link never
relies on it: it sends the header of what it reads just before.

* `TwoWireBus.Hears` — the contract of such a controller;
* `TwoWireLink.serves_registerBus` — a link over it serves the registers of the sensor,
  whichever way it reads;
* `Faulty.hears_twoWire` — transactions that never reach the sensor change nothing.
-/
import SensorLink.Bench.Fault
import SensorLink.Proofs.Register.Serving

namespace SensorLink

variable {σ ε : Type}

/-- The sensor behind the controller holds `contents s` and points to `pointer s`.  Each
transaction does what the sensor does with it, or fails; a failure makes `Failed` true, and
may move the pointer anywhere. -/
structure TwoWireBus.Hears (controller : TwoWireBus σ ε) (contents : σ → Contents)
    (pointer : σ → UInt16) (Failed : σ → Prop) : Prop where
  write : ∀ target register data s, register.toNat + data.length ≤ registerSpace →
    ∃ outcome v, controller.write target (header register ++ data) s = ⟨outcome, v⟩ ∧
      (Failed s → Failed v) ∧
      (outcome = .ok () ∧ pointer v = register ∧
          contents v = (contents s).patch register.toNat data ∨
        ∃ e, outcome = .error e ∧ contents v = contents s ∧ Failed v)
  read : ∀ target buffer s, (pointer s).toNat + buffer.length ≤ registerSpace →
    ∃ outcome filled v, controller.read target buffer s = ⟨outcome, (filled, v)⟩ ∧
      (Failed s → Failed v) ∧ contents v = contents s ∧
      (outcome = .ok () ∧ filled = (contents s).read (pointer s).toNat buffer.length ∨
        ∃ e, outcome = .error e ∧ Failed v)
  writeRead : ∀ target register buffer s, register.toNat + buffer.length ≤ registerSpace →
    ∃ outcome filled v,
      controller.writeRead target (header register) buffer s = ⟨outcome, (filled, v)⟩ ∧
      (Failed s → Failed v) ∧ contents v = contents s ∧
      (outcome = .ok () ∧ filled = (contents s).read register.toNat buffer.length ∨
        ∃ e, outcome = .error e ∧ Failed v)

theorem TwoWireLink.serves_registerBus {controller : TwoWireBus σ ε} {contents : σ → Contents}
    {pointer : σ → UInt16} {Failed : σ → Prop} (h : controller.Hears contents pointer Failed) :
    (registerBus controller).Serves (fun link => contents link.bus)
      (fun link => Failed link.bus) where
  readChunk register buffer link hreach := by
    obtain ⟨settings, staging, s⟩ := link
    have hspace : register.toNat + buffer.length ≤ registerSpace := hreach.le_addressLimit
    have hsize : ¬twoWireChunkSize < buffer.length := Nat.not_lt.mpr hreach.le_chunkSize
    by_cases hcombined : settings.combined
    · obtain ⟨outcome, filled, v, hrun, hfailed, hsame, hends⟩ :=
        h.writeRead settings.address register buffer s hspace
      refine ⟨outcome, filled, ⟨settings, staging, v⟩, ?_, ⟨rfl, rfl, hfailed⟩, hsame, hends⟩
      simp only [registerBus, readChunk, if_neg hsize, if_pos hcombined, hrun, Run.mapWorld]
    -- The header goes out as a message of its own and only sets the pointer.
    · have hheader : register.toNat + ([] : Bytes).length ≤ registerSpace :=
        Nat.le_trans (Nat.add_le_add_left (Nat.zero_le _) _) hspace
      obtain ⟨outcome, v, hwrite, hfailed, hends⟩ := h.write settings.address register [] s hheader
      rw [List.append_nil] at hwrite
      rcases hends with ⟨rfl, rfl, hsame⟩ | ⟨e, rfl, hsame, hnow⟩
      · rw [Contents.patch_nil] at hsame
        obtain ⟨outcome, filled, v', hrun, hfailed', hkept, hends'⟩ :=
          h.read settings.address buffer v hspace
        refine ⟨outcome, filled, ⟨settings, staging, v'⟩, ?_, ⟨rfl, rfl, hfailed' ∘ hfailed⟩,
          hkept.trans hsame, hsame ▸ hends'⟩
        simp only [registerBus, readChunk, if_neg hsize, if_neg hcombined, hwrite, hrun,
          Run.mapWorld]
      · refine ⟨.error e, buffer, ⟨settings, staging, v⟩, ?_, ⟨rfl, rfl, hfailed⟩, hsame,
          .inr ⟨e, rfl, hnow⟩⟩
        simp only [registerBus, readChunk, if_neg hsize, if_neg hcombined, hwrite]
  writeChunk register data link hreach := by
    obtain ⟨settings, staging, s⟩ := link
    have hspace : register.toNat + data.length ≤ registerSpace := hreach.le_addressLimit
    have hsize : data.length ≤ twoWireChunkSize := hreach.le_chunkSize
    have hmessage : (header register ++ data).length = headerLength + data.length := by
      rw [List.length_append, length_header]
    have hfront : (staging.put (header register ++ data)).front (headerLength + data.length)
        = header register ++ data :=
      staging.front_put_of_length hmessage (Nat.add_le_add_left hsize headerLength)
    obtain ⟨outcome, v, hwrite, hfailed, hends⟩ := h.write settings.address register data s hspace
    refine ⟨outcome, ⟨settings, staging.put (header register ++ data), v⟩, ?_, ⟨rfl, rfl, hfailed⟩,
      ?_⟩
    · simp only [registerBus, writeChunk, if_neg (Nat.not_lt.mpr hsize),
        if_neg (Nat.not_lt.mpr (Nat.add_le_add_left hsize headerLength)), hfront, hwrite,
        Run.mapWorld]
    · rcases hends with ⟨rfl, _, hpatch⟩ | hends
      · exact .inl ⟨rfl, hpatch⟩
      · exact .inr hends

namespace Bench.Faulty

variable {controller : TwoWireBus σ ε} {contents : σ → Contents} {pointer : σ → UInt16}
  {Failed : σ → Prop}

/-- A call that is to fail does not reach the sensor. -/
theorem send_cases (call : σ → Run σ ε Unit) (faulty : Faulty σ ε) :
    ∃ schedule, send call faulty = (call faulty.inner).mapWorld (⟨schedule, ·⟩) ∨
      ∃ e, send call faulty = ⟨.error e, ⟨schedule, faulty.inner⟩⟩ := by
  obtain ⟨schedule, inner⟩ := faulty
  simp only [send]
  rcases schedule.next with ⟨_ | fault, schedule⟩
  · exact ⟨schedule, .inl rfl⟩
  · exact ⟨schedule, .inr ⟨fault.cause, rfl⟩⟩

theorem fill_cases (spoiled : Nat → Bytes → Bytes) (buffer : Bytes)
    (call : σ → Run (Bytes × σ) ε Unit) (faulty : Faulty σ ε) :
    ∃ schedule, fill spoiled buffer call faulty
        = (call faulty.inner).mapWorld (fun p => (p.1, ⟨schedule, p.2⟩)) ∨
      ∃ e filled,
        fill spoiled buffer call faulty = ⟨.error e, (filled, ⟨schedule, faulty.inner⟩)⟩ := by
  obtain ⟨schedule, inner⟩ := faulty
  simp only [fill]
  rcases schedule.next with ⟨_ | fault, schedule⟩
  · exact ⟨schedule, .inl rfl⟩
  · exact ⟨schedule, .inr ⟨fault.cause, _, rfl⟩⟩

/-- With faults scheduled, any transaction may fail. -/
theorem hears_twoWire (h : controller.Hears contents pointer Failed) :
    (twoWire controller).Hears (fun faulty => contents faulty.inner)
      (fun faulty => pointer faulty.inner) (fun _ => True) where
  write target register data faulty hspace := by
    obtain ⟨schedule, hsend | ⟨e, hsend⟩⟩ :=
      send_cases (controller.write target (header register ++ data)) faulty
    · obtain ⟨outcome, v, hwrite, _, hends⟩ := h.write target register data faulty.inner hspace
      rw [hwrite] at hsend
      refine ⟨outcome, ⟨schedule, v⟩, hsend, id, hends.imp id ?_⟩
      rintro ⟨e, he, hsame, _⟩
      exact ⟨e, he, hsame, trivial⟩
    · exact ⟨.error e, _, hsend, id, .inr ⟨e, rfl, rfl, trivial⟩⟩
  read target buffer faulty hspace := by
    obtain ⟨schedule, hfill | ⟨e, filled, hfill⟩⟩ :=
      fill_cases spoil buffer (controller.read target buffer) faulty
    · obtain ⟨outcome, filled, v, hread, _, hsame, hends⟩ :=
        h.read target buffer faulty.inner hspace
      rw [hread] at hfill
      refine ⟨outcome, filled, ⟨schedule, v⟩, hfill, id, hsame, hends.imp id ?_⟩
      rintro ⟨e, he, _⟩
      exact ⟨e, he, trivial⟩
    · exact ⟨.error e, filled, _, hfill, id, rfl, .inr ⟨e, rfl, trivial⟩⟩
  writeRead target register buffer faulty hspace := by
    obtain ⟨schedule, hfill | ⟨e, filled, hfill⟩⟩ :=
      fill_cases spoil buffer (controller.writeRead target (header register) buffer) faulty
    · obtain ⟨outcome, filled, v, hread, _, hsame, hends⟩ :=
        h.writeRead target register buffer faulty.inner hspace
      rw [hread] at hfill
      refine ⟨outcome, filled, ⟨schedule, v⟩, hfill, id, hsame, hends.imp id ?_⟩
      rintro ⟨e, he, _⟩
      exact ⟨e, he, trivial⟩
    · exact ⟨.error e, filled, _, hfill, id, rfl, .inr ⟨e, rfl, trivial⟩⟩

end Bench.Faulty

end SensorLink

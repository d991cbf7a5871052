/-
Bytes that move take a call.

An access that succeeds with at least one byte has called the bus, and so has a block
that was moved.  What follows can only add to the calls.

* `RegisterBus.write_called`, `RegisterBus.read_called` — accesses of the registers;
* `Endpoint.moveBlock_called` — a block of a request;
* `Endpoint.moveBlocks_log` — the blocks after it only add to what is noted.
-/
import SensorLink.Proofs.Trace

namespace SensorLink

variable {ω ε : Type}

namespace RegisterBus

/-- Chunks only add to what is noted. -/
theorem writeSpans_log (bus : RegisterBus ω ε) (register : UInt16) (spans : List Span)
    (data : Bytes) (w : ω) (log : List (Event ε)) :
    ∃ events, (bus.traced.writeSpans register spans data (w, log)).world.2 = log ++ events := by
  have hlog : (w, log) = (w, log ++ []) := by rw [List.append_nil]
  obtain ⟨outcome, p, _, _, hrun, rfl⟩ :=
    (bus.sim_earlier log).writeSpans register spans data (w := (w, [])) hlog
  exact ⟨p.2, by rw [hrun]⟩

theorem readSpans_log (bus : RegisterBus ω ε) (register : UInt16) (spans : List Span)
    (buffer : Bytes) (w : ω) (log : List (Event ε)) :
    ∃ events, (bus.traced.readSpans register spans buffer (w, log)).world.2.2 = log ++ events := by
  have hlog : (w, log) = (w, log ++ []) := by rw [List.append_nil]
  obtain ⟨outcome, _, _, _, hrun, ⟨filled, rfl⟩⟩ :=
    (bus.sim_earlier log).readSpans register spans buffer (w := (w, [])) hlog
  exact ⟨_, by rw [hrun]⟩

variable {register : UInt16} {w v : ω} {log log' : List (Event ε)}

/-- A write of at least one byte that succeeds has called the bus. -/
theorem write_called (bus : RegisterBus ω ε) {data : Bytes} (hpos : 0 < data.length)
    (h : bus.traced.write register data (w, log) = ⟨.ok (), (v, log')⟩) :
    ∃ call events, log' = log ++ .bus call :: events := by
  obtain ⟨hchunk, _, hspans⟩ := bus.traced.write_ok h
  -- There is a first chunk, and it succeeded, or the write would not have.
  rw [Span.split_of_pos hchunk hpos, writeSpans] at hspans
  cases hregister : registerAt register 0 with
  | none =>
    rw [hregister] at hspans
    cases hspans
  | some target =>
    rw [hregister] at hspans
    obtain ⟨⟨outcome, u⟩, hrun⟩ : ∃ run, bus.writeChunk target
      (data.take (min (bus.chunkSize w) data.length)) w = run := ⟨_, rfl⟩
    have htraced : bus.traced.writeChunk target
        (data.take (min (bus.traced.chunkSize (w, log)) data.length)) (w, log)
          = ⟨outcome, (u, log ++ [.bus ⟨.write, target,
            data.take (min (bus.chunkSize w) data.length), outcome⟩])⟩ := by
      simp only [traced, hrun]
    simp only [htraced] at hspans
    cases outcome with
    | ok =>
      have hlog := congrArg (fun run => run.world.2) hspans
      obtain ⟨events, hevents⟩ := bus.writeSpans_log register _ _ u _
      rw [hlog, List.append_assoc] at hevents
      exact ⟨_, events, hevents⟩
    | error e => cases hspans
    | trap t => cases hspans

/-- A read of at least one byte that succeeds has called the bus. -/
theorem read_called (bus : RegisterBus ω ε) {buffer filled : Bytes} (hpos : 0 < buffer.length)
    (h : bus.traced.read register buffer (w, log) = ⟨.ok (), (filled, (v, log'))⟩) :
    ∃ call events, log' = log ++ .bus call :: events := by
  obtain ⟨hchunk, _, hspans⟩ := bus.traced.read_ok h
  -- There is a first chunk, and it succeeded, or the read would not have.
  rw [Span.split_of_pos hchunk hpos, readSpans] at hspans
  cases hregister : registerAt register 0 with
  | none =>
    rw [hregister] at hspans
    cases hspans
  | some source =>
    rw [hregister] at hspans
    obtain ⟨⟨outcome, chunk, u⟩, hrun⟩ : ∃ run, bus.readChunk source
      (buffer.take (min (bus.chunkSize w) buffer.length)) w = run := ⟨_, rfl⟩
    have htraced : bus.traced.readChunk source
        (buffer.take (min (bus.traced.chunkSize (w, log)) buffer.length)) (w, log)
          = ⟨outcome, (chunk, (u, log ++ [.bus ⟨.read, source, chunk, outcome⟩]))⟩ := by
      simp only [traced, hrun]
    simp only [htraced] at hspans
    cases outcome with
    | ok =>
      obtain ⟨events, hevents⟩ := bus.readSpans_log register _ _ u _
      have hlog := congrArg (fun run => run.world.2.2) hspans
      simp only [Run.world_mapWorld] at hlog
      rw [hlog, List.append_assoc] at hevents
      exact ⟨_, events, hevents⟩
    | error e => cases hspans
    | trap t => cases hspans

end RegisterBus

namespace Endpoint

theorem wholeTransfer_eq_ok {base : Nat} {outcome : Outcome (AccessError ε) Unit}
    (h : wholeTransfer base outcome = .ok ()) : outcome = .ok () := by
  rcases outcome with _ | e | t
  · rfl
  · rw [wholeTransfer] at h
    cases hoffset : e.offsetBy base with
    | some e =>
      rw [hoffset] at h
      cases h
    | none =>
      rw [hoffset] at h
      cases h
  · cases h

/-- A block that was moved has called the bus. -/
theorem moveBlock_called (bus : RegisterBus ω ε) (boundary : Boundary ω) {direction : Direction}
    {register : UInt16} {address : UInt64} {block : Span} {staging staging' : Staging} {w v : ω}
    {log log' : List (Event ε)} (hpos : 0 < block.length) (hle : block.length ≤ stagingSize)
    (h : moveBlock bus.traced (boundary.traced ε) direction register address block staging (w, log)
      = ⟨.ok (), (staging', (v, log'))⟩) :
    ∃ events, log' = log ++ events ∧ Event.busCalls events ≠ [] := by
  cases direction with
  | write =>
    rw [moveBlock_write hle] at h
    obtain ⟨⟨answer, u⟩, hcopy⟩ : ∃ run, boundary.copyIn address block.length w = run := ⟨_, rfl⟩
    have hnoted := Boundary.copyIn_traced hcopy log
    cases answer with
    | error e =>
      rw [sendBlock_of_error hle hnoted] at h
      cases h
    | ok bytes =>
      obtain ⟨⟨outcome, p⟩, hwrite⟩ : ∃ run, bus.traced.write register bytes.toList
        (u, log ++ [.copyIn address block.length (failureOf (.ok bytes))]) = run := ⟨_, rfl⟩
      rw [sendBlock_of_ok hle hnoted hwrite, Run.mk.injEq, Prod.mk.injEq] at h
      obtain ⟨houtcome, _, rfl⟩ := h
      rw [wholeTransfer_eq_ok houtcome] at hwrite
      obtain ⟨call, events, rfl⟩ := bus.write_called (bytes.length_toList.symm ▸ hpos) hwrite
      refine ⟨_, List.append_assoc .., ?_⟩
      rw [Event.busCalls_append, Event.busCalls_copyIn, List.nil_append]
      exact List.cons_ne_nil _ _
  | read =>
    rw [moveBlock_read hle] at h
    obtain ⟨⟨outcome, filled, u, events⟩, hread⟩ : ∃ run, bus.traced.read register
      (staging.front block.length) (w, log) = run := ⟨_, rfl⟩
    by_cases hok : outcome = .ok ()
    · subst hok
      obtain ⟨call, events, rfl⟩ := bus.read_called
        (by rw [Scratch.length_front _ hle]; exact hpos) hread
      obtain ⟨⟨answer, u'⟩, hcopy⟩ : ∃ run, boundary.copyOut address
        ((staging.put filled).front block.length) u = run := ⟨_, rfl⟩
      have hnoted : (boundary.traced ε).copyOut address ((staging.put filled).front block.length)
          (u, log ++ .bus call :: events) = (answer, (u', log ++ .bus call :: events
            ++ [.copyOut address ((staging.put filled).front block.length)
              (failureOf answer)])) := by
        simp only [Boundary.traced, hcopy]
      rw [fetchBlock_of_ok hread hnoted, Run.mk.injEq, Prod.mk.injEq, Prod.mk.injEq] at h
      obtain ⟨_, _, _, rfl⟩ := h
      refine ⟨_, List.append_assoc .., ?_⟩
      rw [Event.busCalls_append]
      exact fun h => List.cons_ne_nil _ _ (List.append_eq_nil_iff.mp h).1
    · rw [fetchBlock_of_ne hread hok] at h
      exact absurd (wholeTransfer_eq_ok (congrArg Run.outcome h)) hok

/-- Blocks only add to what is noted. -/
theorem moveBlocks_log (bus : RegisterBus ω ε) (boundary : Boundary ω) (request : Request)
    (blocks : List Span) (staging : Staging) (w : ω) (log : List (Event ε)) :
    ∃ events, (moveBlocks bus.traced (boundary.traced ε) request blocks staging
      (w, log)).world.2.2 = log ++ events := by
  have hlog : (w, log) = (w, log ++ []) := by rw [List.append_nil]
  obtain ⟨outcome, _, _, _, hrun, ⟨staging, rfl⟩⟩ :=
    sim_moveBlocks (bus.sim_earlier log) (boundary.sim_earlier log) request blocks staging
      (w := (w, [])) hlog
  exact ⟨_, by rw [hrun]⟩

end Endpoint

end SensorLink

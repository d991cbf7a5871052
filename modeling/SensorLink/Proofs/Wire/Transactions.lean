/-
The transactions of a two-wire link.

A chunk call becomes one transaction, or two if a read is split.  Whatever a controller
notes of its transactions, after a run of chunk calls it has noted those of the first
call, then those of the second, and so on.

* `Transaction` — a transaction and its ending;
* `TwoWireSettings.Conveys` — the transactions by which a link makes a chunk call;
* `TwoWireBus.Notes` — a controller that keeps a record of its transactions;
* `TwoWireLink.notes_chunk`, `TwoWireLink.notes_replays` — what is noted of a chunk call,
  and of a run of them;
* `TwoWireBus.watched` — any controller, with a record of all transactions;
* `TwoWireTarget.notes_controller` — a simulated sensor notes those that do not fail.
-/
import Mathlib.Data.List.Forall2
import SensorLink.Proofs.Register.Replay
import SensorLink.Proofs.Wire.Overwriting

namespace SensorLink

open Bench (TwoWireMessage)

variable {σ ε τ : Type}

/-- A transaction on a two-wire bus and its ending. -/
structure Transaction (ε : Type) where
  message : TwoWireMessage
  outcome : Outcome ε Unit
  deriving DecidableEq, Repr

/-- The transactions by which a link makes a chunk call.  Data is read only right after the
header of the chunk was taken. -/
inductive TwoWireSettings.Conveys (settings : TwoWireSettings) :
    BusCall ε → List (Transaction ε) → Prop
  | write {register : UInt16} {data : Bytes} {outcome : Outcome ε Unit} :
      Conveys settings ⟨.write, register, data, outcome⟩
        [⟨.write settings.address (header register ++ data), outcome⟩]
  | combined {register : UInt16} {bytes : Bytes} {outcome : Outcome ε Unit} :
      settings.combined = true →
      Conveys settings ⟨.read, register, bytes, outcome⟩
        [⟨.writeRead settings.address (header register) bytes.length, outcome⟩]
  /-- The header was not taken, and so nothing is read. -/
  | unheard {register : UInt16} {bytes : Bytes} {outcome : Outcome ε Unit} :
      settings.combined = false → outcome ≠ .ok () →
      Conveys settings ⟨.read, register, bytes, outcome⟩
        [⟨.write settings.address (header register), outcome⟩]
  | split {register : UInt16} {bytes : Bytes} {outcome : Outcome ε Unit} :
      settings.combined = false →
      Conveys settings ⟨.read, register, bytes, outcome⟩
        [⟨.write settings.address (header register), .ok ()⟩,
          ⟨.read settings.address bytes.length, outcome⟩]

/-- Every transaction adds its `entries` to the record that is kept in the state. -/
structure TwoWireBus.Notes (controller : TwoWireBus σ ε) (record : σ → List τ)
    (entries : Transaction ε → List τ) : Prop where
  write : ∀ target message s, record (controller.write target message s).world
    = record s ++ entries ⟨.write target message, (controller.write target message s).outcome⟩
  read : ∀ target buffer s, record (controller.read target buffer s).world.2
    = record s
      ++ entries ⟨.read target buffer.length, (controller.read target buffer s).outcome⟩
  writeRead : ∀ target message buffer s,
    record (controller.writeRead target message buffer s).world.2
      = record s ++ entries ⟨.writeRead target message buffer.length,
          (controller.writeRead target message buffer s).outcome⟩

/-! ### What a link makes its controller note -/

namespace TwoWireLink

variable {controller : TwoWireBus σ ε} {record : σ → List τ} {entries : Transaction ε → List τ}

theorem notes_chunk (h : controller.Notes record entries) {call : BusCall ε} {handed : Bytes}
    {link link' : TwoWireLink σ} (hsize : call.length ≤ twoWireChunkSize)
    (hrun : (registerBus controller).chunk call.direction call.register handed link
      = ⟨call.outcome, (call.bytes, link')⟩) :
    link'.settings = link.settings ∧ ∃ group, link.settings.Conveys call group ∧
      record link'.bus = record link.bus ++ group.flatMap entries := by
  have hlength := RegisterBus.length_of_chunk hrun
  rw [BusCall.length, ← hlength] at hsize
  obtain ⟨settings, staging, s⟩ := link
  obtain ⟨direction, register, bytes, outcome⟩ := call
  cases direction with
  | read =>
    simp only [RegisterBus.chunk, registerBus, readChunk, if_neg (Nat.not_lt.mpr hsize)] at hrun
    cases hcombined : settings.combined with
    | true =>
      have hnote := h.writeRead settings.address (header register) handed s
      obtain ⟨⟨ending, filled, s'⟩, hcall⟩ : ∃ run,
        controller.writeRead settings.address (header register) handed s = run := ⟨_, rfl⟩
      rw [if_pos hcombined, hcall] at hrun
      rw [hcall, hlength] at hnote
      cases hrun
      exact ⟨rfl, _, .combined hcombined, by rw [hnote, List.flatMap_singleton]⟩
    | false =>
      have hheader := h.write settings.address (header register) s
      obtain ⟨⟨ending, s'⟩, hsent⟩ : ∃ run,
        controller.write settings.address (header register) s = run := ⟨_, rfl⟩
      rw [if_neg (hcombined ▸ Bool.false_ne_true), hsent] at hrun
      rw [hsent] at hheader
      cases ending with
      | ok =>
        have hnote := h.read settings.address handed s'
        obtain ⟨⟨ending, filled, s''⟩, hcall⟩ : ∃ run,
          controller.read settings.address handed s' = run := ⟨_, rfl⟩
        simp only [hcall] at hrun
        rw [hcall, hlength] at hnote
        cases hrun
        refine ⟨rfl, _, .split hcombined, ?_⟩
        rw [hnote, hheader, List.flatMap_cons, List.flatMap_singleton, List.append_assoc]
      | error e =>
        cases hrun
        exact ⟨rfl, _, .unheard hcombined Outcome.error_ne_ok,
          by rw [hheader, List.flatMap_singleton]⟩
      | trap t =>
        cases hrun
        exact ⟨rfl, _, .unheard hcombined Outcome.trap_ne_ok,
          by rw [hheader, List.flatMap_singleton]⟩
  | write =>
    have hfits : headerLength + handed.length ≤ headerLength + twoWireChunkSize :=
      Nat.add_le_add_left hsize headerLength
    have hfront : (staging.put (header register ++ handed)).front (headerLength + handed.length)
        = header register ++ handed :=
      staging.front_put_of_length (by rw [List.length_append, length_header]) hfits
    have hnote := h.write settings.address (header register ++ handed) s
    obtain ⟨⟨ending, s'⟩, hcall⟩ : ∃ run,
      controller.write settings.address (header register ++ handed) s = run := ⟨_, rfl⟩
    simp only [RegisterBus.chunk, registerBus, writeChunk, if_neg (Nat.not_lt.mpr hsize),
      if_neg (Nat.not_lt.mpr hfits), hfront, hcall] at hrun
    rw [hcall] at hnote
    cases hrun
    exact ⟨rfl, _, .write, by rw [hnote, List.flatMap_singleton]⟩

/-- After a run of chunk calls the transactions of each call are noted, in order. -/
theorem notes_replays (h : controller.Notes record entries) {calls : List (BusCall ε)}
    {link link' : TwoWireLink σ} (hreplays : (registerBus controller).Replays link calls link')
    (hsize : ∀ call ∈ calls, call.length ≤ twoWireChunkSize) :
    link'.settings = link.settings ∧
      ∃ groups, List.Forall₂ link.settings.Conveys calls groups ∧
        record link'.bus = record link.bus ++ groups.flatten.flatMap entries := by
  induction hreplays with
  | nil => exact ⟨rfl, [], .nil, (List.append_nil _).symm⟩
  | @snoc calls call handed mid last _ hrun ih =>
    obtain ⟨hsettings, groups, hgroups, hrecord⟩ :=
      ih fun other hmem => hsize other (List.mem_append_left _ hmem)
    obtain ⟨hsettings', group, hgroup, hrecord'⟩ :=
      notes_chunk h (hsize call (List.mem_append_right _ List.mem_cons_self)) hrun
    rw [hsettings] at hsettings' hgroup
    refine ⟨hsettings', groups ++ [group], List.rel_append hgroups (.cons hgroup .nil), ?_⟩
    rw [hrecord', hrecord, List.flatten_append, List.flatMap_append, List.flatten_singleton,
      List.append_assoc]

end TwoWireLink

/-! ### Controllers that keep a record -/

/-- The controller with a record of all transactions and how they ended. -/
def TwoWireBus.watched (controller : TwoWireBus σ ε) :
    TwoWireBus (σ × List (Transaction ε)) ε where
  write target message := fun (s, record) =>
    match controller.write target message s with
    | ⟨outcome, s⟩ => ⟨outcome, (s, record ++ [⟨.write target message, outcome⟩])⟩
  read target buffer := fun (s, record) =>
    match controller.read target buffer s with
    | ⟨outcome, (filled, s)⟩ =>
      ⟨outcome, (filled, (s, record ++ [⟨.read target buffer.length, outcome⟩]))⟩
  writeRead target message buffer := fun (s, record) =>
    match controller.writeRead target message buffer s with
    | ⟨outcome, (filled, s)⟩ =>
      ⟨outcome, (filled, (s, record ++ [⟨.writeRead target message buffer.length, outcome⟩]))⟩
  length_read target buffer s := controller.length_read target buffer s.1
  length_writeRead target message buffer s :=
    controller.length_writeRead target message buffer s.1

theorem TwoWireBus.notes_watched (controller : TwoWireBus σ ε) :
    controller.watched.Notes Prod.snd fun transaction => [transaction] where
  write _ _ _ := rfl
  read _ _ _ := rfl
  writeRead _ _ _ _ := rfl

/-- The record changes nothing. -/
theorem TwoWireBus.couples_watched (controller : TwoWireBus σ ε) :
    controller.Couples controller.watched Eq Logged where
  write := by
    rintro target message _ ⟨s, record⟩ rfl
    exact .of_eq rfl rfl
  read := by
    rintro target buffer _ _ ⟨s, record⟩ rfl rfl
    exact .of_eq rfl rfl (fun _ => rfl) rfl
  writeRead := by
    rintro target message buffer _ _ ⟨s, record⟩ rfl rfl
    exact .of_eq rfl rfl (fun _ => rfl) rfl

namespace Bench.TwoWireTarget

/-- What a simulated sensor notes of a transaction: its message, unless it fails. -/
def heard (transaction : Transaction TwoWireError) : List TwoWireMessage :=
  match transaction.outcome with
  | .error _ => []
  | _ => [transaction.message]

theorem log_accept (message : TwoWireMessage) (target : TwoWireTarget) :
    (target.accept message).world.log.toList
      = target.log.toList ++ heard ⟨message, (target.accept message).outcome⟩ := by
  obtain ⟨registers, pointer, attempts, failAfter, log⟩ := target
  simp only [accept]
  split
  · exact (List.append_nil _).symm
  · exact Array.toList_push

theorem log_receive (message : Bytes) (target : TwoWireTarget) :
    (target.receive message).world.log = target.log := by
  obtain ⟨registers, pointer, attempts, failAfter, log⟩ := target
  simp only [receive]
  split
  · rfl
  · split <;> rfl

theorem log_stream (buffer : Bytes) (target : TwoWireTarget) :
    (target.stream buffer).world.2.log = target.log := by
  unfold stream
  split <;> rfl

/-- The sensor itself never fails: it answers, or a contract is broken. -/
theorem heard_receive (message : Bytes) (noted : TwoWireMessage) (target : TwoWireTarget) :
    heard ⟨noted, (target.receive message).outcome⟩ = [noted] := by
  obtain ⟨registers, pointer, attempts, failAfter, log⟩ := target
  simp only [receive]
  split
  · rfl
  · split <;> rfl

theorem heard_stream (buffer : Bytes) (noted : TwoWireMessage) (target : TwoWireTarget) :
    heard ⟨noted, (target.stream buffer).outcome⟩ = [noted] := by
  unfold stream
  split <;> rfl

theorem notes_controller : controller.Notes (fun target => target.log.toList) heard where
  write address message target := by
    have hlog := target.log_accept (.write address message)
    obtain ⟨⟨outcome, v⟩, haccept⟩ : ∃ run, target.accept (.write address message) = run :=
      ⟨_, rfl⟩
    simp only [controller, write]
    rw [haccept] at hlog ⊢
    cases outcome with
    | ok =>
      rw [Run.andThen_ok, log_receive, heard_receive]
      exact hlog
    | error => exact hlog
    | trap => exact hlog
  read address buffer target := by
    have hlog := target.log_accept (.read address buffer.length)
    obtain ⟨⟨outcome, v⟩, haccept⟩ : ∃ run, target.accept (.read address buffer.length) = run :=
      ⟨_, rfl⟩
    simp only [controller, read]
    rw [haccept] at hlog ⊢
    cases outcome with
    | ok =>
      simp only [log_stream, heard_stream]
      exact hlog
    | error => exact hlog
    | trap => exact hlog
  writeRead address message buffer target := by
    have hlog := target.log_accept (.writeRead address message buffer.length)
    obtain ⟨⟨outcome, v⟩, haccept⟩ : ∃ run,
      target.accept (.writeRead address message buffer.length) = run := ⟨_, rfl⟩
    simp only [controller, writeRead]
    rw [haccept] at hlog ⊢
    cases outcome with
    | ok =>
      -- The header is taken in as a message is.
      have hreceive := log_receive (message.take headerLength) v
      have hheard := heard_receive (message.take headerLength)
        (.writeRead address message buffer.length) v
      rw [Run.andThen_ok]
      obtain ⟨⟨outcome, u⟩, hrun⟩ : ∃ run, v.receive (message.take headerLength) = run := ⟨_, rfl⟩
      rw [hrun] at hreceive hheard ⊢
      cases outcome with
      | ok =>
        simp only [log_stream, heard_stream, show u.log = v.log from hreceive]
        exact hlog
      | error => exact absurd hheard (List.cons_ne_nil _ _).symm
      | trap =>
        simp only [show u.log = v.log from hreceive]
        exact hlog
    | error => exact hlog
    | trap => exact hlog

end Bench.TwoWireTarget

end SensorLink

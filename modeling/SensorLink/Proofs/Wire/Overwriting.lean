/-
Links whose buffers do not matter.

What a link sends it has just put together, and what it gives back has just come in.  So
two links that differ only in what earlier transfers left in their buffers do the same,
as long as the controller overwrites what it is to fill.  That a controller does so is
a contract: on four wires it follows from the way a link uses its controller, on two
wires it has to be asked for.

* `TwoWireBus.Couples`, `FourWireBus.Couples` — controllers that do the same;
* `TwoWireBus.Overwrites` — what a buffer held before it is filled does not matter;
* `TwoWireLink.sim_registerBus`, `TwoWireLink.fills_registerBus`,
  `FourWireLink.sim_registerBus`, `FourWireLink.fills_registerBus` — links over them;
* `TwoWireBus.logged`, `FourWireBus.logged`, `RegisterBus.logged` — everything that is sent;
* `RegisterBus.Blind` — a read that looks at nothing in its buffer may still leave it as it was;
* `overwrites_twoWire`, `overwrites_controller` — simulated sensors, with any faults.

Design notes.  A call that fails may leave anything in the buffer it was to fill, also
what depends on its old bytes.  Only a call that succeeds has to have filled all of it.
-/
import SensorLink.Bench.Link
import SensorLink.Bench.Recorder
import SensorLink.Proofs.Trace

namespace SensorLink

open Bench (TwoWireMessage)

variable {σ σ' ε : Type} {B : Bytes → Bytes → Prop} {S : σ → σ' → Prop}

/-! ### Controllers -/

/-- The second controller does on related states what the first one does. -/
structure TwoWireBus.Couples (controller : TwoWireBus σ ε) (controller' : TwoWireBus σ' ε)
    (B : Bytes → Bytes → Prop) (S : σ → σ' → Prop) : Prop where
  write : ∀ target message s s', S s s' →
    Run.Sim S id (controller.write target message s) (controller'.write target message s')
  read : ∀ target {buffer buffer'} s s', B buffer buffer' → S s s' →
    Run.Filled B S id (controller.read target buffer s) (controller'.read target buffer' s')
  writeRead : ∀ target message {buffer buffer'} s s', B buffer buffer' → S s s' →
    Run.Filled B S id (controller.writeRead target message buffer s)
      (controller'.writeRead target message buffer' s')

/-- What a buffer holds before the controller fills it does not matter. -/
def TwoWireBus.Overwrites (controller : TwoWireBus σ ε) : Prop :=
  controller.Couples controller Bytes.SameLength Eq

/-- The second controller does on related states what the first one does. -/
def FourWireBus.Couples (controller : FourWireBus σ ε) (controller' : FourWireBus σ' ε)
    (S : σ → σ' → Prop) : Prop :=
  ∀ buffer s s', S s s' →
    Run.Sim (Beside S) id (controller.exchange buffer s) (controller'.exchange buffer s')

theorem Run.Filled.of_eq {ω ω' : Type} {R : ω → ω' → Prop} {run : Run (Bytes × ω) ε Unit}
    {run' : Run (Bytes × ω') ε Unit} (houtcome : run'.outcome = run.outcome)
    (hbuffer : B run.world.1 run'.world.1)
    (hfilled : run.outcome = .ok () → run.world.1 = run'.world.1)
    (hR : R run.world.2 run'.world.2) : Run.Filled B R id run run' := by
  refine ⟨run.outcome, _, _, _, _, rfl, ?_, hbuffer, hfilled, hR⟩
  rw [Outcome.mapError_eq_self (f := id) (fun _ => rfl), ← houtcome]

theorem TwoWireBus.couples_self (controller : TwoWireBus σ ε) :
    controller.Couples controller Eq Eq where
  write := by
    rintro target message s _ rfl
    exact .of_eq rfl rfl
  read := by
    rintro target buffer _ s _ rfl rfl
    exact .of_eq rfl rfl (fun _ => rfl) rfl
  writeRead := by
    rintro target message buffer _ s _ rfl rfl
    exact .of_eq rfl rfl (fun _ => rfl) rfl

theorem FourWireBus.couples_self (controller : FourWireBus σ ε) :
    controller.Couples controller Eq := by
  rintro buffer s _ rfl
  exact .of_eq rfl (.intro _ rfl)

/-! ### Links -/

namespace TwoWireLink

variable {controller : TwoWireBus σ ε} {controller' : TwoWireBus σ' ε}

/-- The links have the same settings and related controllers.  Their staging buffers may
hold anything. -/
structure Matches (S : σ → σ' → Prop) (link : TwoWireLink σ) (link' : TwoWireLink σ') : Prop where
  settings : link'.settings = link.settings
  bus : S link.bus link'.bus

theorem fills_registerBus (h : controller.Couples controller' B S) (hB : Piecewise B) :
    (registerBus controller).Fills (registerBus controller') B (Matches S) id where
  readChunk := by
    rintro register buffer buffer' ⟨_, staging, s⟩ ⟨settings, staging', s'⟩ hbuffer ⟨hsettings, hS⟩
    simp only at hsettings hS
    subst hsettings
    simp only [registerBus, readChunk, ← hB.length_eq hbuffer]
    by_cases hsize : twoWireChunkSize < buffer.length
    · simp only [if_pos hsize]
      exact .trap hbuffer ⟨rfl, hS⟩
    simp only [if_neg hsize]
    by_cases hcombined : settings.combined
    · obtain ⟨outcome, filled, filled', v, v', hrun, hrun', hfilled, hsame, hv⟩ :=
        h.writeRead settings.address (header register) s s' hbuffer hS
      simp only [if_pos hcombined, hrun, hrun']
      exact ⟨outcome, filled, filled', _, _, rfl, rfl, hfilled, hsame, rfl, hv⟩
    · obtain ⟨outcome, v, v', hsent, hsent', hv⟩ :=
        h.write settings.address (header register) s s' hS
      simp only [if_neg hcombined, hsent, hsent']
      cases outcome with
      | ok _ =>
        obtain ⟨outcome, filled, filled', u, u', hrun, hrun', hfilled, hsame, hu⟩ :=
          h.read settings.address v v' hbuffer hv
        simp only [Outcome.mapError_ok, hrun, hrun']
        exact ⟨outcome, filled, filled', _, _, rfl, rfl, hfilled, hsame, rfl, hu⟩
      | error e => exact .error rfl hbuffer ⟨rfl, hv⟩
      | trap t => exact .trap hbuffer ⟨rfl, hv⟩

theorem sim_registerBus (h : controller.Couples controller' Eq S) :
    (registerBus controller).Sim (registerBus controller') (Matches S) id where
  chunkSize _ _ _ := rfl
  addressLimit _ _ _ := rfl
  readChunk register buffer link link' hmatches :=
    ((fills_registerBus h piecewise_eq).readChunk register link link' rfl hmatches).sim
  writeChunk := by
    rintro register data ⟨_, staging, s⟩ ⟨settings, staging', s'⟩ ⟨hsettings, hS⟩
    simp only at hsettings hS
    subst hsettings
    simp only [registerBus, writeChunk]
    by_cases hsize : twoWireChunkSize < data.length
    · simp only [if_pos hsize]
      exact .trap ⟨rfl, hS⟩
    have hfits : headerLength + data.length ≤ headerLength + twoWireChunkSize :=
      Nat.add_le_add_left (Nat.not_lt.mp hsize) headerLength
    have hlength : (header register ++ data).length = headerLength + data.length := by
      rw [List.length_append, length_header]
    -- The message fills the front of either buffer, and only the front is sent.
    obtain ⟨outcome, v, v', hrun, hrun', hv⟩ :=
      h.write settings.address (header register ++ data) s s' hS
    simp only [if_neg hsize, if_neg (Nat.not_lt.mpr hfits),
      staging.front_put_of_length hlength hfits, staging'.front_put_of_length hlength hfits,
      hrun, hrun']
    exact .of_outcome outcome ⟨rfl, hv⟩

end TwoWireLink

namespace FourWireLink

variable {controller : FourWireBus σ ε} {controller' : FourWireBus σ' ε}

/-- The links have related controllers.  Their settings play no part in an access, and
their exchange buffers may hold anything. -/
def Matches (S : σ → σ' → Prop) (link : FourWireLink σ) (link' : FourWireLink σ') : Prop :=
  S link.bus link'.bus

/-- A message that fits into the exchange buffer fills the front of it, and only the
front is sent. -/
theorem sim_exchange (h : controller.Couples controller' S) {message : Bytes}
    (hmessage : message.length ≤ fourWireTransferSize) {link : FourWireLink σ}
    {link' : FourWireLink σ'} (hmatches : Matches S link link') :
    Run.Sim (Beside (Matches S)) id (link.exchange controller message)
      (link'.exchange controller' message) := by
  obtain ⟨settings, scratch, s⟩ := link
  obtain ⟨settings', scratch', s'⟩ := link'
  obtain ⟨outcome, _, _, hrun, hrun', ⟨answer, hv⟩⟩ := h message s s' hmatches
  simp only [exchange, scratch.front_put hmessage, scratch'.front_put hmessage, hrun, hrun']
  exact .of_outcome outcome (.intro answer hv)

theorem fills_registerBus (h : controller.Couples controller' S) (hB : Piecewise B) :
    (registerBus controller).Fills (registerBus controller') B (Matches S) id where
  readChunk := by
    intro register buffer buffer' link link' hbuffer hmatches
    simp only [registerBus, readChunk, ← hB.length_eq hbuffer]
    by_cases hsize : fourWireChunkSize < buffer.length
    · simp only [if_pos hsize]
      exact .trap hbuffer hmatches
    by_cases hdirection : register &&& directionBit ≠ 0
    · simp only [if_neg hsize, if_pos hdirection]
      exact .trap hbuffer hmatches
    have hfits : headerLength + buffer.length ≤ fourWireTransferSize :=
      Nat.add_le_of_le_sub' (by decide) (Nat.not_lt.mp hsize)
    have hmessage : (header register ++ List.replicate buffer.length 0).length
        ≤ fourWireTransferSize := by
      rwa [List.length_append, length_header, List.length_replicate]
    obtain ⟨outcome, _, _, hrun, hrun', ⟨answer, hv⟩⟩ := sim_exchange h hmessage hmatches
    simp only [if_neg hsize, if_neg hdirection, if_neg (Nat.not_lt.mpr hfits), hrun, hrun']
    cases outcome with
    -- Both buffers are replaced by what came back.
    | ok _ => exact ⟨.ok (), _, _, _, _, rfl, rfl, hB.refl _, fun _ => rfl, hv⟩
    | error e => exact .error rfl hbuffer hv
    | trap t => exact .trap hbuffer hv

theorem sim_registerBus (h : controller.Couples controller' S) :
    (registerBus controller).Sim (registerBus controller') (Matches S) id where
  chunkSize _ _ _ := rfl
  addressLimit _ _ _ := rfl
  readChunk register buffer link link' hmatches :=
    ((fills_registerBus h piecewise_eq).readChunk register link link' rfl hmatches).sim
  writeChunk := by
    intro register data link link' hmatches
    simp only [registerBus, writeChunk]
    by_cases hsize : fourWireChunkSize < data.length
    · simp only [if_pos hsize]
      exact .trap hmatches
    by_cases hdirection : register &&& directionBit ≠ 0
    · simp only [if_neg hsize, if_pos hdirection]
      exact .trap hmatches
    have hfits : headerLength + data.length ≤ fourWireTransferSize :=
      Nat.add_le_of_le_sub' (by decide) (Nat.not_lt.mp hsize)
    have hmessage : (header (register ||| directionBit) ++ data).length
        ≤ fourWireTransferSize := by
      rwa [List.length_append, length_header]
    simp only [if_neg hsize, if_neg hdirection, if_neg (Nat.not_lt.mpr hfits)]
    refine (sim_exchange h hmessage hmatches).mapWorld ?_
    rintro _ _ ⟨answer, hv⟩
    exact hv

end FourWireLink

/-! ### What is sent -/

/-- Makes a call and notes it. -/
def note {τ α ω : Type} (entry : τ) (call : ω → Run ω ε α) : ω × List τ → Run (ω × List τ) ε α :=
  fun (w, log) => (call w).mapWorld fun w => (w, log ++ [entry])

/-- Makes a call that fills a buffer and notes it. -/
def noteFill {τ α ω : Type} (entry : τ) (call : ω → Run (Bytes × ω) ε α) :
    ω × List τ → Run (Bytes × (ω × List τ)) ε α :=
  fun (w, log) => (call w).mapWorld fun (buffer, w) => (buffer, (w, log ++ [entry]))

/-- The controller with a record of all messages, those of failing calls included. -/
def TwoWireBus.logged (controller : TwoWireBus σ ε) :
    TwoWireBus (σ × List TwoWireMessage) ε where
  write target message := note (.write target message) (controller.write target message)
  read target buffer := noteFill (.read target buffer.length) (controller.read target buffer)
  writeRead target message buffer :=
    noteFill (.writeRead target message buffer.length) (controller.writeRead target message buffer)
  length_read target buffer s := controller.length_read target buffer s.1
  length_writeRead target message buffer s :=
    controller.length_writeRead target message buffer s.1

/-- The controller with a record of all exchanges as sent, those that fail included. -/
def FourWireBus.logged (controller : FourWireBus σ ε) : FourWireBus (σ × List Bytes) ε where
  exchange buffer := noteFill buffer (controller.exchange buffer)
  length_exchange buffer s := controller.length_exchange buffer s.1

/-- A chunk call as the bus gets it: a register with the number of bytes to read, or with
the bytes to write. -/
inductive ChunkMessage where
  | read (register : UInt16) (length : Nat)
  | write (register : UInt16) (data : Bytes)
  deriving DecidableEq, Repr

namespace ChunkMessage

def direction : ChunkMessage → Direction
  | read .. => .read
  | write .. => .write

def register : ChunkMessage → UInt16
  | read register _ => register
  | write register _ => register

def length : ChunkMessage → Nat
  | read _ length => length
  | write _ data => data.length

end ChunkMessage

/-- The chunk that a call asks for. -/
def BusCall.message (call : BusCall ε) : ChunkMessage :=
  match call.direction with
  | .read => .read call.register call.length
  | .write => .write call.register call.bytes

theorem BusCall.register_message (call : BusCall ε) : call.message.register = call.register := by
  obtain ⟨direction, register, bytes, outcome⟩ := call
  cases direction <;> rfl

/-- The bus with a record of all chunk calls, those that fail included. -/
def RegisterBus.logged (bus : RegisterBus σ ε) : RegisterBus (σ × List ChunkMessage) ε where
  chunkSize s := bus.chunkSize s.1
  addressLimit s := bus.addressLimit s.1
  readChunk register buffer :=
    noteFill (.read register buffer.length) (bus.readChunk register buffer)
  writeChunk register data := note (.write register data) (bus.writeChunk register data)
  length_readChunk register buffer s := bus.length_readChunk register buffer s.1

/-- A record beside a world. -/
def Logged {τ ω : Type} (w : ω) (p : ω × List τ) : Prop :=
  p.1 = w

namespace TwoWireBus

/-- The record changes nothing. -/
theorem couples_logged (controller : TwoWireBus σ ε) :
    controller.Couples controller.logged Eq Logged where
  write := by
    rintro target message _ ⟨s, log⟩ rfl
    exact .of_eq rfl rfl
  read := by
    rintro target buffer _ _ ⟨s, log⟩ rfl rfl
    exact .of_eq rfl rfl (fun _ => rfl) rfl
  writeRead := by
    rintro target message buffer _ _ ⟨s, log⟩ rfl rfl
    exact .of_eq rfl rfl (fun _ => rfl) rfl

theorem Overwrites.logged {controller : TwoWireBus σ ε} (h : controller.Overwrites) :
    controller.logged.Overwrites where
  write := by
    rintro target message s _ rfl
    exact .of_eq rfl rfl
  read := by
    rintro target buffer buffer' ⟨s, log⟩ _ hbuffer rfl
    obtain ⟨outcome, filled, filled', v, _, hrun, hrun', hfilled, hsame, rfl⟩ :=
      h.read target s s hbuffer rfl
    have hlength : buffer.length = buffer'.length := hbuffer
    simp only [TwoWireBus.logged, noteFill, hlength, hrun, hrun']
    exact ⟨outcome, filled, filled', _, _, rfl, rfl, hfilled, hsame, rfl⟩
  writeRead := by
    rintro target message buffer buffer' ⟨s, log⟩ _ hbuffer rfl
    obtain ⟨outcome, filled, filled', v, _, hrun, hrun', hfilled, hsame, rfl⟩ :=
      h.writeRead target message s s hbuffer rfl
    have hlength : buffer.length = buffer'.length := hbuffer
    simp only [TwoWireBus.logged, noteFill, hlength, hrun, hrun']
    exact ⟨outcome, filled, filled', _, _, rfl, rfl, hfilled, hsame, rfl⟩

end TwoWireBus

theorem FourWireBus.couples_logged (controller : FourWireBus σ ε) :
    controller.Couples controller.logged Logged := by
  rintro buffer _ ⟨s, log⟩ rfl
  exact .of_eq rfl (.intro _ rfl)

namespace RegisterBus

/-- What a buffer holds before the bus fills it does not matter. -/
def Overwrites (bus : RegisterBus σ ε) : Prop :=
  bus.Fills bus Bytes.SameLength Eq id

/-- How a read ends and what it leaves of the bus do not depend on what its buffer held. -/
def Blind (bus : RegisterBus σ ε) : Prop :=
  ∀ register buffer buffer' s, buffer.length = buffer'.length →
    (bus.readChunk register buffer s).outcome = (bus.readChunk register buffer' s).outcome ∧
      (bus.readChunk register buffer s).world.2 = (bus.readChunk register buffer' s).world.2

/-- The record changes nothing. -/
theorem sim_logged (bus : RegisterBus σ ε) : bus.Sim bus.logged Logged id where
  chunkSize := by
    rintro _ ⟨s, log⟩ rfl
    rfl
  addressLimit := by
    rintro _ ⟨s, log⟩ rfl
    rfl
  readChunk := by
    rintro register buffer _ ⟨s, log⟩ rfl
    exact .of_eq rfl (.intro _ rfl)
  writeChunk := by
    rintro register data _ ⟨s, log⟩ rfl
    exact .of_eq rfl rfl

theorem Overwrites.logged {bus : RegisterBus σ ε} (h : bus.Overwrites) :
    bus.logged.Overwrites where
  readChunk := by
    rintro register buffer buffer' ⟨s, log⟩ _ hbuffer rfl
    obtain ⟨outcome, filled, filled', v, _, hrun, hrun', hfilled, hsame, rfl⟩ :=
      h.readChunk register s s hbuffer rfl
    have hlength : buffer.length = buffer'.length := hbuffer
    simp only [RegisterBus.logged, noteFill, hlength, hrun, hrun']
    exact ⟨outcome, filled, filled', _, _, rfl, rfl, hfilled, hsame, rfl⟩

end RegisterBus

theorem TwoWireLink.staging_readChunk (controller : TwoWireBus σ ε)
    (register : UInt16) (buffer : Bytes) (link : TwoWireLink σ) :
    (readChunk controller register buffer link).world.2.staging = link.staging := by
  simp only [readChunk]
  split
  · rfl
  split
  · rfl
  · split <;> rfl

theorem TwoWireLink.blind_registerBus {controller : TwoWireBus σ ε}
    (h : controller.Overwrites) : (registerBus controller).Blind := by
  intro register buffer buffer' link hlength
  have hstaging := staging_readChunk controller register buffer link
  have hstaging' := staging_readChunk controller register buffer' link
  obtain ⟨outcome, filled, filled', v, v', hrun, hrun', _, _, hsettings, hbus⟩ :=
    (fills_registerBus h piecewise_sameLength).readChunk register link link hlength ⟨rfl, rfl⟩
  simp only [registerBus] at hrun hrun' ⊢
  rw [hrun] at hstaging ⊢
  rw [hrun'] at hstaging' ⊢
  refine ⟨(outcome.mapError_eq_self fun _ => rfl).symm, ?_⟩
  obtain ⟨settings, staging, s⟩ := v
  obtain ⟨settings', staging', s'⟩ := v'
  simp only at hstaging hstaging' hsettings hbus ⊢
  rw [hstaging, hstaging', hsettings, hbus]

/-! ### Simulated sensors -/

namespace Bench

variable {τ : Type}

namespace Faulty

theorem sameLength_spoil (count : Nat) {buffer buffer' : Bytes} (h : buffer.SameLength buffer') :
    (spoil count buffer).SameLength (spoil count buffer') := by
  simp only [Bytes.SameLength, length_spoil] at h ⊢
  exact h

/-- A fault may spoil some of a buffer; then the call fails. -/
theorem fill_filled {buffer buffer' : Bytes} {call call' : σ → Run (Bytes × σ) ε Unit}
    (hbuffer : buffer.SameLength buffer')
    (hcall : ∀ s, Run.Filled Bytes.SameLength Eq id (call s) (call' s)) (faulty : Faulty σ ε) :
    Run.Filled Bytes.SameLength Eq id (fill spoil buffer call faulty)
      (fill spoil buffer' call' faulty) := by
  obtain ⟨schedule, inner⟩ := faulty
  simp only [fill]
  rcases schedule.next with ⟨_ | fault, schedule⟩
  · obtain ⟨outcome, filled, filled', v, _, hrun, hrun', hfilled, hsame, rfl⟩ := hcall inner
    simp only [hrun, hrun']
    exact ⟨outcome, filled, filled', _, _, rfl, rfl, hfilled, hsame, rfl⟩
  · exact .error rfl (sameLength_spoil fault.spoilt hbuffer) rfl

theorem overwrites_twoWire {controller : TwoWireBus σ ε} (h : controller.Overwrites) :
    (twoWire controller).Overwrites where
  write := by
    rintro target message faulty _ rfl
    exact .of_eq rfl rfl
  read := by
    rintro target buffer buffer' faulty _ hbuffer rfl
    exact fill_filled hbuffer (fun s => h.read target s s hbuffer rfl) faulty
  writeRead := by
    rintro target message buffer buffer' faulty _ hbuffer rfl
    exact fill_filled hbuffer (fun s => h.writeRead target message s s hbuffer rfl) faulty

/-- A register bus behind a schedule of faults, which may spoil what it is to fill. -/
def registers (bus : RegisterBus σ ε) : RegisterBus (Faulty σ ε) ε where
  chunkSize faulty := bus.chunkSize faulty.inner
  addressLimit faulty := bus.addressLimit faulty.inner
  readChunk register buffer := fill spoil buffer (bus.readChunk register buffer)
  writeChunk register data := send (bus.writeChunk register data)
  length_readChunk _ buffer := length_fill (length_spoil · buffer) (bus.length_readChunk _ _)

theorem overwrites_registers {bus : RegisterBus σ ε} (h : bus.Overwrites) :
    (registers bus).Overwrites where
  readChunk := by
    rintro register buffer buffer' faulty _ hbuffer rfl
    exact fill_filled hbuffer (fun s => h.readChunk register s s hbuffer rfl) faulty

end Faulty

namespace TwoWireTarget

theorem stream_filled (target : TwoWireTarget) {buffer buffer' : Bytes}
    (h : buffer.SameLength buffer') :
    Run.Filled Bytes.SameLength Eq id (target.stream buffer) (target.stream buffer') := by
  have hlength : buffer.length = buffer'.length := h
  simp only [stream, hlength]
  by_cases hspace : target.pointer.toNat + buffer'.length ≤ registerSpace
  · simp only [if_pos hspace]
    exact ⟨.ok (), _, _, _, _, rfl, rfl, rfl, fun _ => rfl, rfl⟩
  · simp only [if_neg hspace]
    exact .trap h rfl

theorem overwrites_controller : controller.Overwrites where
  write := by
    rintro address message target _ rfl
    exact .of_eq rfl rfl
  read := by
    rintro address buffer buffer' target _ hbuffer rfl
    have hlength : buffer.length = buffer'.length := hbuffer
    simp only [controller, read, hlength]
    rcases target.accept (.read address buffer'.length) with ⟨_ | e | t, target⟩
    · exact stream_filled target hbuffer
    · exact .error rfl hbuffer rfl
    · exact .trap hbuffer rfl
  writeRead := by
    rintro address message buffer buffer' target _ hbuffer rfl
    have hlength : buffer.length = buffer'.length := hbuffer
    simp only [controller, writeRead, hlength]
    rcases (target.accept (.writeRead address message buffer'.length)).andThen fun _ target =>
      target.receive (message.take headerLength) with ⟨_ | e | t, target⟩
    · exact stream_filled target hbuffer
    · exact .error rfl hbuffer rfl
    · exact .trap hbuffer rfl

end TwoWireTarget

theorem Recorder.overwrites_registerBus : Recorder.registerBus.Overwrites where
  readChunk := by
    rintro register buffer buffer' recorder _ hbuffer rfl
    have hlength : buffer.length = buffer'.length := hbuffer
    simp only [registerBus, readChunk, hlength]
    rcases recorder.record ⟨.read, register, buffer'.length⟩ with ⟨_ | e | t, recorder⟩
    · by_cases hspace : register.toNat + buffer'.length ≤ registerSpace
      · simp only [if_pos hspace]
        exact ⟨.ok (), _, _, _, _, rfl, rfl, rfl, fun _ => rfl, rfl⟩
      · simp only [if_neg hspace]
        exact .trap hbuffer rfl
    · exact .error rfl hbuffer rfl
    · exact .trap hbuffer rfl

end Bench

end SensorLink

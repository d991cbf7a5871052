/-
What can be read off the wires.

A sensor on a bus sees framed messages and nothing else.  As long as no call fails, these
follow the rules of their wires, and whoever knows the rules can tell from a record of them
which chunks were asked for, with which data, and what that has left in the registers.

* `FourWireFrame`, `TwoWireFrame` — the rules, chunk by chunk;
* `ChunkMessage.ofExchange?`, `ChunkMessage.ofMessages?` — records read by the rules;
* `ofExchange?_frame`, `ofMessages?_frames` — reading gives what was framed;
* `FourWireTarget.log_replays`, `Conveys.frame` — what the sensors record of chunk calls;
* `wire_log_faithful` — the record of every run of jobs.
-/
import SensorLink.Proofs.Wire.Transactions

namespace SensorLink

open Bench (TwoWireMessage TwoWireTarget FourWireTarget)

variable {ε μ ι ρ : Type}

/-! ### Chunks that are asked for -/

namespace ChunkMessage

/-- The bytes that are sent for the chunk: those of a write, and zeros in place of those
that are yet to come. -/
def payload : ChunkMessage → Bytes
  | read _ length => List.replicate length 0
  | write _ data => data

/-- What the chunk leaves in the registers. -/
def store (contents : Contents) : ChunkMessage → Contents
  | read .. => contents
  | write register data => contents.patch register.toNat data

/-- The chunk holds something, is at most `size` long and ends at or below `limit`. -/
def Within (size limit : Nat) (message : ChunkMessage) : Prop :=
  1 ≤ message.length ∧ message.length ≤ size ∧ message.register.toNat + message.length ≤ limit

instance (size limit : Nat) (message : ChunkMessage) : Decidable (message.Within size limit) :=
  inferInstanceAs (Decidable (_ ∧ _ ∧ _))

end ChunkMessage

theorem BusCall.within_message {call : BusCall ε} {size limit : Nat} (hpos : 0 < call.length)
    (hsize : call.length ≤ size) (hlimit : call.register.toNat + call.length ≤ limit) :
    call.message.Within size limit := by
  obtain ⟨direction, register, bytes, outcome⟩ := call
  cases direction with
  | read => exact ⟨hpos, hsize, hlimit⟩
  | write => exact ⟨hpos, hsize, hlimit⟩

/-- Calls that succeed leave in the registers what their chunks do. -/
theorem BusCall.foldl_store {calls : List (BusCall ε)} (h : ∀ call ∈ calls, call.outcome = .ok ())
    (contents : Contents) :
    calls.foldl store contents = (calls.map message).foldl ChunkMessage.store contents := by
  rw [List.foldl_map]
  refine List.foldl_ext _ _ contents fun contents call hmem => ?_
  have hok := h call hmem
  obtain ⟨direction, register, bytes, outcome⟩ := call
  simp only at hok
  subst hok
  cases direction <;> rfl

/-! ### The rules -/

/-- The exchange moves a chunk by the rules of four wires: a header of two bytes, high byte
first, whose top bit is set iff the chunk is written and whose other bits name its register,
and then one byte for each byte of the chunk. -/
structure FourWireFrame (exchange : Bytes) (request : ChunkMessage) : Prop where
  within : request.Within 4094 0x8000
  framed : ∃ word, exchange = header word ++ request.payload ∧
    (word &&& directionBit ≠ 0 ↔ request.direction = .write) ∧
    word &&& ~~~directionBit = request.register

/-- The messages move a chunk by the rules of two wires: all of them go to the sensor; data
follows a header of two bytes, high byte first, in one message, and is read after such a
header in one transaction or, if that is not possible, in the one after it. -/
inductive TwoWireFrame (settings : TwoWireSettings) : List TwoWireMessage → ChunkMessage → Prop
  | write {register : UInt16} {data : Bytes} :
      (ChunkMessage.write register data).Within 1024 0x10000 →
      TwoWireFrame settings [.write settings.address (header register ++ data)]
        (.write register data)
  | combined {register : UInt16} {length : Nat} :
      settings.combined = true → (ChunkMessage.read register length).Within 1024 0x10000 →
      TwoWireFrame settings [.writeRead settings.address (header register) length]
        (.read register length)
  | split {register : UInt16} {length : Nat} :
      settings.combined = false → (ChunkMessage.read register length).Within 1024 0x10000 →
      TwoWireFrame settings
        [.write settings.address (header register), .read settings.address length]
        (.read register length)

namespace ChunkMessage

/-- The chunk that an exchange moves, if it follows the rules. -/
def ofExchange? (exchange : Bytes) : Option ChunkMessage :=
  match splitHeader? exchange with
  | none => none
  | some (word, data) =>
    let register := word &&& ~~~directionBit
    if word &&& directionBit ≠ 0 then
      if (write register data).Within 4094 0x8000 then some (write register data) else none
    else if (read register data.length).Within 4094 0x8000 ∧
        data = List.replicate data.length 0 then
      some (read register data.length)
    else none

/-- Puts a chunk in front of others, if it is one for two wires. -/
def prepend? (request : ChunkMessage) (requests : Option (List ChunkMessage)) :
    Option (List ChunkMessage) :=
  if request.Within 1024 0x10000 then requests.map (request :: ·) else none

/-- The chunks that messages to the sensor at `address` move, if they follow the rules. -/
def ofMessages? (address : UInt8) : List TwoWireMessage → Option (List ChunkMessage)
  | [] => some []
  | .write target message :: .read target' length :: rest =>
    if target = address ∧ target' = address then
      match splitHeader? message with
      | some (register, []) => prepend? (read register length) (ofMessages? address rest)
      | _ => none
    else none
  | .write target message :: rest =>
    if target = address then
      match splitHeader? message with
      | some (register, data) => prepend? (write register data) (ofMessages? address rest)
      | none => none
    else none
  | .writeRead target message length :: rest =>
    if target = address then
      match splitHeader? message with
      | some (register, []) => prepend? (read register length) (ofMessages? address rest)
      | _ => none
    else none
  | .read .. :: _ => none

theorem prepend?_of_within {request : ChunkMessage} (h : request.Within 1024 0x10000)
    (requests : List ChunkMessage) :
    prepend? request (some requests) = some (request :: requests) :=
  if_pos h

theorem splitHeader?_header_nil (register : UInt16) :
    splitHeader? (header register) = some (register, []) := by
  have := splitHeader?_header register []
  rwa [List.append_nil] at this

/-- A message that no read follows is a write. -/
theorem ofMessages?_write (address : UInt8) {register : UInt16} {data : Bytes}
    {rest : List TwoWireMessage}
    (hrest : ∀ target length later, rest ≠ .read target length :: later) :
    ofMessages? address (.write address (header register ++ data) :: rest)
      = prepend? (write register data) (ofMessages? address rest) := by
  rcases rest with _ | ⟨_ | ⟨target, length⟩ | _, later⟩
  · simp only [ofMessages?, if_true, splitHeader?_header]
  · simp only [ofMessages?, if_true, splitHeader?_header]
  · exact absurd rfl (hrest target length later)
  · simp only [ofMessages?, if_true, splitHeader?_header]

/-- Reading an exchange gives the chunk that it moves. -/
theorem ofExchange?_frame {exchange : Bytes} {request : ChunkMessage}
    (h : FourWireFrame exchange request) : ofExchange? exchange = some request := by
  obtain ⟨hwithin, word, rfl, hwrite, hregister⟩ := h
  simp only [ofExchange?, splitHeader?_header, hregister]
  cases request with
  | read register length =>
    have hclear : ¬word &&& directionBit ≠ 0 := fun hset => by cases hwrite.mp hset
    have hlength : (payload (read register length)).length = length := List.length_replicate
    rw [if_neg hclear, hlength]
    exact if_pos ⟨hwithin, rfl⟩
  | write register data =>
    rw [if_pos (hwrite.mpr rfl)]
    exact if_pos hwithin

theorem mapM_frames {sent : List Bytes} {requests : List ChunkMessage}
    (h : List.Forall₂ FourWireFrame sent requests) : sent.mapM ofExchange? = some requests := by
  induction h with
  | nil => rfl
  | cons hframe _ ih =>
    rw [List.mapM_cons, ofExchange?_frame hframe, ih]
    rfl

/-- A frame never starts with data that is read. -/
theorem ne_read_of_frames {settings : TwoWireSettings} {groups : List (List TwoWireMessage)}
    {requests : List ChunkMessage} (h : List.Forall₂ (TwoWireFrame settings) groups requests)
    (target : UInt8) (length : Nat) (later : List TwoWireMessage) :
    groups.flatten ≠ .read target length :: later := by
  cases h with
  | nil => exact List.ne_nil_of_mem List.mem_cons_self ∘ Eq.symm
  | cons hframe _ => cases hframe <;> simp

/-- Reading messages gives the chunks that they move. -/
theorem ofMessages?_frames {settings : TwoWireSettings} {groups : List (List TwoWireMessage)}
    {requests : List ChunkMessage} (h : List.Forall₂ (TwoWireFrame settings) groups requests) :
    ofMessages? settings.address groups.flatten = some requests := by
  induction h with
  | nil => rfl
  | cons hframe hrest ih =>
    rw [List.flatten_cons]
    cases hframe with
    | write hwithin =>
      rw [List.singleton_append, ofMessages?_write _ (ne_read_of_frames hrest), ih,
        prepend?_of_within hwithin]
    | combined _ hwithin =>
      simp only [List.singleton_append, ofMessages?, if_true, splitHeader?_header_nil, ih,
        prepend?_of_within hwithin]
    | split _ hwithin =>
      simp only [List.cons_append, List.nil_append, ofMessages?, and_self, if_true,
        splitHeader?_header_nil, ih, prepend?_of_within hwithin]

end ChunkMessage

/-! ### Four wires -/

/-- The exchange by which a chunk is moved. -/
def ChunkMessage.exchange : ChunkMessage → Bytes
  | read register length => header register ++ List.replicate length 0
  | write register data => header (register ||| directionBit) ++ data

theorem ChunkMessage.frame_exchange {request : ChunkMessage} (h : request.Within 4094 0x8000) :
    FourWireFrame request.exchange request := by
  have hlow : request.register.toNat < 0x8000 := by
    obtain ⟨hpos, _, hlimit⟩ := h
    omega
  refine ⟨h, ?_⟩
  cases request with
  | read register length =>
    refine ⟨register, rfl, ⟨fun hset => absurd (and_directionBit hlow) hset, ?_⟩,
      and_not_directionBit hlow⟩
    intro hdirection
    cases hdirection
  | write register data =>
    exact ⟨register ||| directionBit, rfl, ⟨fun _ => rfl, fun _ => or_directionBit_and_self _⟩,
      or_directionBit_and_not hlow⟩

namespace Bench.FourWireTarget

/-- An exchange is recorded as it was sent, however it is answered. -/
theorem log_exchange (buffer : Bytes) (target : FourWireTarget) :
    (target.exchange buffer).world.2.log = target.log.push buffer := by
  obtain ⟨registers, failAfter, log⟩ := target
  simp only [exchange]
  split
  · rfl
  split
  · rfl
  · simp only [serve]
    split
    · rfl
    · split <;> rfl

/-- A chunk call within reach is one exchange. -/
theorem log_chunk {call : BusCall FourWireError} {handed : Bytes}
    {link link' : FourWireLink FourWireTarget} (hsize : call.length ≤ fourWireChunkSize)
    (hlow : call.register.toNat < fourWireSpace)
    (hrun : (FourWireLink.registerBus controller).chunk call.direction call.register handed link
      = ⟨call.outcome, (call.bytes, link')⟩) :
    link'.bus.log = link.bus.log.push call.message.exchange := by
  have hlength := RegisterBus.length_of_chunk hrun
  rw [BusCall.length, ← hlength] at hsize
  obtain ⟨settings, scratch, target⟩ := link
  obtain ⟨direction, register, bytes, outcome⟩ := call
  cases direction with
  | read =>
    have hlog := target.log_exchange (header register ++ List.replicate handed.length 0)
    obtain ⟨⟨ending, answer, v⟩, hsent⟩ : ∃ run,
      target.exchange (header register ++ List.replicate handed.length 0) = run := ⟨_, rfl⟩
    obtain ⟨scratch', hread⟩ := readChunk_link settings scratch hsize hlow hsent
    simp only [RegisterBus.chunk, FourWireLink.registerBus, hread] at hrun
    rw [hsent, hlength] at hlog
    cases ending <;> cases hrun <;> exact hlog
  | write =>
    have hlog := target.log_exchange (header (register ||| directionBit) ++ handed)
    obtain ⟨⟨ending, answer, v⟩, hsent⟩ : ∃ run,
      target.exchange (header (register ||| directionBit) ++ handed) = run := ⟨_, rfl⟩
    obtain ⟨scratch', hwrite⟩ := writeChunk_link settings scratch hsize hlow hsent
    simp only [RegisterBus.chunk, FourWireLink.registerBus, hwrite, Run.mapWorld] at hrun
    rw [hsent] at hlog
    cases hrun
    exact hlog

/-- After a run of chunk calls the exchange of each call is recorded, in order. -/
theorem log_replays {calls : List (BusCall FourWireError)}
    {link link' : FourWireLink FourWireTarget}
    (hreplays : (FourWireLink.registerBus controller).Replays link calls link')
    (hreach : ∀ call ∈ calls, call.length ≤ fourWireChunkSize ∧
      call.register.toNat < fourWireSpace) :
    link'.bus.log.toList
      = link.bus.log.toList ++ (calls.map BusCall.message).map ChunkMessage.exchange := by
  induction hreplays with
  | nil => exact (List.append_nil _).symm
  | @snoc calls call handed mid last _ hrun ih =>
    obtain ⟨hsize, hlow⟩ := hreach call (List.mem_append_right _ List.mem_cons_self)
    have hearlier := ih fun other hmem => hreach other (List.mem_append_left _ hmem)
    rw [log_chunk hsize hlow hrun, Array.toList_push, hearlier, List.append_assoc, List.map_append,
      List.map_append]
    rfl

end Bench.FourWireTarget

/-! ### Two wires -/

/-- The sensor has heard a frame of the chunk of every call that succeeded. -/
theorem TwoWireSettings.Conveys.frame {settings : TwoWireSettings} {call : BusCall TwoWireError}
    {group : List (Transaction TwoWireError)} (h : settings.Conveys call group)
    (hok : call.outcome = .ok ()) (hwithin : call.message.Within 1024 0x10000) :
    TwoWireFrame settings (group.flatMap TwoWireTarget.heard) call.message := by
  cases h with
  | write =>
    obtain rfl := hok
    exact .write hwithin
  | combined hcombined =>
    obtain rfl := hok
    exact .combined hcombined hwithin
  | unheard _ hne => exact absurd hok hne
  | split hcombined =>
    obtain rfl := hok
    exact .split hcombined hwithin

theorem TwoWireSettings.frames_of_conveys {settings : TwoWireSettings}
    {calls : List (BusCall TwoWireError)} {groups : List (List (Transaction TwoWireError))}
    (h : List.Forall₂ settings.Conveys calls groups) (hok : ∀ call ∈ calls, call.outcome = .ok ())
    (hwithin : ∀ call ∈ calls, call.message.Within 1024 0x10000) :
    List.Forall₂ (TwoWireFrame settings) (groups.map (List.flatMap TwoWireTarget.heard))
      (calls.map BusCall.message) := by
  induction h with
  | nil => exact .nil
  | @cons call group calls groups hconveys _ ih =>
    refine .cons (hconveys.frame (hok call List.mem_cons_self) (hwithin call List.mem_cons_self)) ?_
    exact ih (fun other hmem => hok other (List.mem_cons_of_mem _ hmem))
      fun other hmem => hwithin other (List.mem_cons_of_mem _ hmem)

/-! ### Runs of jobs -/

/-- The record of a sensor is faithful.  Whatever is done with it, by accesses and by
requests of any kind, if no call on the bus fails then what was recorded meanwhile is a frame
of each chunk that was asked for, in order; reading the record by the rules gives back these
chunks; and putting the data of those that write into the registers, in the order of the
record, gives the registers as they are at the end. -/
theorem wire_log_faithful (bridge : Bridge ι ρ) (boundary : Boundary μ)
    (jobs : List (Job μ ι)) (endpoint : Endpoint ρ) :
    (∀ link : FourWireLink FourWireTarget,
      let bus := FourWireLink.registerBus FourWireTarget.controller
      let calls := Job.calls bridge boundary bus jobs endpoint link
      let requests := calls.map BusCall.message
      let final := (Job.runAll bridge bus boundary jobs (endpoint, link)).2.2.bus
      (∀ call ∈ calls, call.outcome = .ok ()) →
        ∃ sent, final.log.toList = link.bus.log.toList ++ sent ∧
          List.Forall₂ FourWireFrame sent requests ∧
          sent.mapM ChunkMessage.ofExchange? = some requests ∧
          final.registers.contents
            = requests.foldl ChunkMessage.store link.bus.registers.contents) ∧
    ∀ link : TwoWireLink TwoWireTarget,
      let bus := TwoWireLink.registerBus TwoWireTarget.controller
      let calls := Job.calls bridge boundary bus jobs endpoint link
      let requests := calls.map BusCall.message
      let final := (Job.runAll bridge bus boundary jobs (endpoint, link)).2.2.bus
      (∀ call ∈ calls, call.outcome = .ok ()) →
        ∃ groups, final.log.toList = link.bus.log.toList ++ groups.flatten ∧
          List.Forall₂ (TwoWireFrame link.settings) groups requests ∧
          ChunkMessage.ofMessages? link.settings.address groups.flatten = some requests ∧
          final.registers.contents
            = requests.foldl ChunkMessage.store link.bus.registers.contents := by
  constructor
  · intro link bus calls requests final hok
    have hreach : ∀ call ∈ calls, bus.Reaches call.register call.length link :=
      fun call hmem => Job.reaches_of_mem_calls bridge
        FourWireTarget.serves_registerBus.answers (show 0 < fourWireChunkSize by decide)
        (show fourWireSpace ≤ registerSpace by decide) boundary jobs endpoint hmem
    have hreplays := Job.replays bridge boundary bus jobs endpoint link
    have hlog := FourWireTarget.log_replays hreplays
      fun call hmem => ⟨(hreach call hmem).le_chunkSize, (hreach call hmem).register_lt⟩
    have hframes : List.Forall₂ FourWireFrame (requests.map ChunkMessage.exchange) requests := by
      rw [List.forall₂_map_left_iff, List.forall₂_same]
      intro request hmem
      obtain ⟨call, hcall, rfl⟩ := List.mem_map.mp hmem
      obtain ⟨hpos, hsize, hlimit⟩ := hreach call hcall
      exact ChunkMessage.frame_exchange (BusCall.within_message hpos hsize hlimit)
    obtain ⟨_, hrecalls⟩ := FourWireTarget.serves_registerBus.recalls hreplays hreach
    exact ⟨_, hlog, hframes, ChunkMessage.mapM_frames hframes,
      hrecalls.contents_eq.trans (BusCall.foldl_store hok _)⟩
  · intro link bus calls requests final hok
    have hreach : ∀ call ∈ calls, bus.Reaches call.register call.length link :=
      fun call hmem => Job.reaches_of_mem_calls bridge
        TwoWireTarget.serves_registerBus.answers (show 0 < twoWireChunkSize by decide)
        (Nat.le_refl registerSpace) boundary jobs endpoint hmem
    have hreplays := Job.replays bridge boundary bus jobs endpoint link
    obtain ⟨_, groups, hgroups, hlog⟩ :=
      TwoWireLink.notes_replays TwoWireTarget.notes_controller hreplays
        fun call hmem => (hreach call hmem).le_chunkSize
    have hframes := TwoWireSettings.frames_of_conveys hgroups hok fun call hmem =>
      BusCall.within_message (hreach call hmem).pos (hreach call hmem).le_chunkSize
        (hreach call hmem).le_addressLimit
    obtain ⟨_, hrecalls⟩ := TwoWireTarget.serves_registerBus.recalls hreplays hreach
    refine ⟨_, hlog.trans (congrArg (link.bus.log.toList ++ ·) ?_), hframes,
      ChunkMessage.ofMessages?_frames hframes,
      hrecalls.contents_eq.trans (BusCall.foldl_store hok _)⟩
    simp only [List.flatMap_def, List.map_flatten, List.flatten_flatten, List.map_map,
      Function.comp_def]
    rfl

open Bench in
/-- A sensor on either bus, which is written and read, once by way of caller memory. -/
theorem wire_log_faithful_split :
    let window : Window := ⟨0, #[7, 8, 9]⟩
    let jobs : List (Job Window Nat) :=
      [.host (.sensor (.write 0x1234 [1, 2, 3])), .interrupt,
        .execute ⟨3, 0x1233, .write, 0⟩ window, .host (.sensor (.readByte 0x1236)),
        .host (.sensor (.read 0xFFFF [0, 0]))]
    let endpoint : Endpoint (Readiness Nat) := ⟨Scratch.zero _, .idle⟩
    let two : TwoWireLink TwoWireTarget := .bind { combined := false } { registers := .zero }
    let twoWireBus := TwoWireLink.registerBus TwoWireTarget.controller
    let twoWireCalls :=
      Job.calls Readiness.bridge Window.boundary twoWireBus jobs endpoint two
    let afterTwo :=
      (Job.runAll Readiness.bridge twoWireBus Window.boundary jobs (endpoint, two)).2.2
    let four : FourWireLink FourWireTarget := ⟨{}, Scratch.zero _, { registers := .zero }⟩
    let fourWireBus := FourWireLink.registerBus FourWireTarget.controller
    let fourWireCalls :=
      Job.calls Readiness.bridge Window.boundary fourWireBus jobs endpoint four
    let afterFour :=
      (Job.runAll Readiness.bridge fourWireBus Window.boundary jobs (endpoint, four)).2.2
    (∀ call ∈ twoWireCalls, call.outcome = .ok ()) ∧ twoWireCalls.length = 3 ∧
      (∀ call ∈ fourWireCalls, call.outcome = .ok ()) ∧ fourWireCalls.length = 3 ∧
      ChunkMessage.ofMessages? 0x29 afterTwo.bus.log.toList
        = some (twoWireCalls.map BusCall.message) ∧
      afterFour.bus.log.toList.mapM ChunkMessage.ofExchange?
        = some (fourWireCalls.map BusCall.message) := by
  intro window jobs endpoint two twoWireBus twoWireCalls afterTwo four fourWireBus fourWireCalls
    afterFour
  have htwo : ∀ call ∈ twoWireCalls, call.outcome = .ok () := by decide +kernel
  have hfour : ∀ call ∈ fourWireCalls, call.outcome = .ok () := by decide +kernel
  obtain ⟨hfourWire, htwoWire⟩ := wire_log_faithful Readiness.bridge Window.boundary jobs endpoint
  obtain ⟨sent, hsent, _, hdecoded, _⟩ := hfourWire four hfour
  obtain ⟨groups, hgroups, _, hdecoded', _⟩ := htwoWire two htwo
  exact ⟨htwo, by decide +kernel, hfour, by decide +kernel, (congrArg _ hgroups).trans hdecoded',
    (congrArg (List.mapM _) hsent).trans hdecoded⟩

end SensorLink

/-
The calls of a request, in order.

A request moves its bytes in blocks, and each block in chunks.  How far it comes is told by
stretches: pieces that were moved by the bus, with the calls at the boundary between them.
A stretch followed by a stretch is one again, and so the blocks of a request make up one
that goes from its first piece to its last.

* `Step`, `Request.plan` — a call in exact integers, and the calls of a request in order;
* `Request.Staged` — a stretch of a request as pieces that were moved;
* `Request.Stretch` — how a stretch ends;
* `Stretch.append`, `Stretch.stop` — stretches one after the other;
* `Endpoint.moveBlock_staged`, `moveBlocks_staged`, `execute_staged` — a block, blocks, a
  request.
-/
import SensorLink.Proofs.Control.BufferCheck
import SensorLink.Proofs.Register.Regrouping

namespace SensorLink

variable {ω μ ε : Type}

/-! ### Calls in exact integers -/

/-- A call, by the addresses and the number of bytes. -/
inductive Step where
  | check (address length : Nat)
  | copy (direction : Direction) (address length : Nat)
  | chunk (direction : Direction) (register length : Nat)
  deriving DecidableEq, Repr

namespace Event

def step : Event ε → Step
  | bus call => .chunk call.direction call.register.toNat call.length
  | check address length _ => .check address.toNat length
  | copyIn address length _ => .copy .write address.toNat length
  | copyOut address data _ => .copy .read address.toNat data.length

/-- The failure that a call at the boundary has reported. -/
def failure? : Event ε → Option CopyError
  | bus _ => none
  | check _ _ failure => failure
  | copyIn _ _ failure => failure
  | copyOut _ _ failure => failure

/-- A call at the boundary has failed. -/
def Refused (events : List (Event ε)) : Prop :=
  ∃ event ∈ events, event.failure? ≠ none

theorem Refused.single {event : Event ε} {e : CopyError} (h : event.failure? = some e) :
    Refused [event] :=
  ⟨event, List.mem_cons_self, h ▸ Option.some_ne_none e⟩

theorem Refused.after {events : List (Event ε)} (h : Refused events) (earlier : List (Event ε)) :
    Refused (earlier ++ events) := by
  obtain ⟨event, hmem, hfailure⟩ := h
  exact ⟨event, List.mem_append_right _ hmem, hfailure⟩

end Event

namespace Request

variable (request : Request) (chunkSize : Nat)

/-- The chunk calls of a block. -/
def chunkSteps (block : Span) : List Step :=
  (Span.split chunkSize block.length).map fun piece =>
    .chunk request.direction (request.register.toNat + block.offset + piece.offset) piece.length

/-- The calls of a block: its bytes come in before they are written, and go out after they
were read. -/
def blockSteps (block : Span) : List Step :=
  let copy := .copy request.direction (request.buffer.toNat + block.offset) block.length
  match request.direction with
  | .write => copy :: request.chunkSteps chunkSize block
  | .read => request.chunkSteps chunkSize block ++ [copy]

/-- Blocks end where chunks do, or there is only one. -/
def Aligned : Prop :=
  request.length.toNat ≤ stagingSize ∨ chunkSize ∣ stagingSize

variable {request} in
theorem blockSteps_write (h : request.direction = .write) (block : Span) :
    request.blockSteps chunkSize block
      = .copy .write (request.buffer.toNat + block.offset) block.length
        :: request.chunkSteps chunkSize block := by
  simp only [blockSteps, h]

variable {request} in
theorem blockSteps_read (h : request.direction = .read) (block : Span) :
    request.blockSteps chunkSize block
      = request.chunkSteps chunkSize block
        ++ [.copy .read (request.buffer.toNat + block.offset) block.length] := by
  simp only [blockSteps, h]

theorem chunkSteps_subset (block : Span) :
    request.chunkSteps chunkSize block ⊆ request.blockSteps chunkSize block := by
  cases hdirection : request.direction with
  | write =>
    rw [blockSteps_write _ hdirection]
    exact List.subset_cons_self _ _
  | read =>
    rw [blockSteps_read _ hdirection]
    exact List.subset_append_left _ _

/-- The calls of a request that is carried out: one check if there are bytes to move, and
then block after block. -/
def plan : List Step :=
  let length := request.length.toNat
  (if length = 0 then [] else [.check request.buffer.toNat length])
    ++ (Span.split stagingSize length).flatMap (request.blockSteps chunkSize)

end Request

theorem ChunkRun.map_step {direction : Direction} {register : Nat}
    {Post : Bytes → BusCall ε → Prop} {pieces : List Span} {bytes : Bytes}
    {calls : List (BusCall ε)} (h : ChunkRun direction register Post pieces bytes calls (.ok ())) :
    (calls.map Event.bus).map Event.step
      = pieces.map fun piece => .chunk direction (register + piece.offset) piece.length := by
  generalize hok : (Outcome.ok () : Outcome (AccessError ε) Unit) = outcome at h
  induction h with
  | nil => rfl
  | cons hmoves _ _ _ ih =>
    obtain ⟨rfl, hregister, hlength⟩ := hmoves
    simp only [List.map_cons, ih hok, Event.step, hregister, hlength]
  | last _ _ hne => exact absurd (Outcome.mapError_eq_ok.mp hok.symm) hne

/-! ### Stretches of a request -/

/-- A stretch of a request: the bus has moved the pieces, from the bytes it was handed, and
if it did not fail then all calls have gone by plan. -/
structure Request.Staged (request : Request) (bus : RegisterBus ω ε) (pieces : List Span)
    (plan : List Step) (handed : Bytes) (w : ω) (outcome : Outcome (AccessError ε) Unit) (v : ω)
    (events : List (Event ε)) : Prop where
  moved : bus.Moved request.direction request.register pieces handed w outcome v
    (Event.busCalls events)
  length_eq : handed.length = (pieces.map Span.length).sum
  ok_of_calls : (∀ call ∈ Event.busCalls events, call.outcome = .ok ()) → outcome = .ok ()
  steps : outcome = .ok () → events.map Event.step = plan

namespace Request.Staged

variable {request : Request} {bus : RegisterBus ω ε} {pieces more : List Span}
  {plan later : List Step} {handed : Bytes} {w v : ω} {outcome : Outcome (AccessError ε) Unit}
  {events : List (Event ε)}

theorem nil (request : Request) (bus : RegisterBus ω ε) (w : ω) :
    request.Staged bus [] [] [] w (.ok ()) w [] where
  moved := .nil bus request.direction request.register [] w
  length_eq := rfl
  ok_of_calls _ := rfl
  steps _ := rfl

/-- A call at the boundary does not concern the bus. -/
theorem single (request : Request) (bus : RegisterBus ω ε) (w : ω) {event : Event ε}
    (h : event.busCall? = none) : request.Staged bus [] [event.step] [] w (.ok ()) w [event] where
  moved := by
    rw [Event.busCalls, List.filterMap_cons_none h]
    exact .nil bus request.direction request.register [] w
  length_eq := rfl
  ok_of_calls _ := rfl
  steps _ := rfl

theorem append {rest : Bytes} {u : ω} {others : List (Event ε)}
    (h : request.Staged bus pieces plan handed w (.ok ()) v events)
    (h' : request.Staged bus more later rest v outcome u others) :
    request.Staged bus (pieces ++ more) (plan ++ later) (handed ++ rest) w outcome u
      (events ++ others) where
  moved := by
    rw [Event.busCalls_append]
    exact h.moved.append h.length_eq h'.moved
  length_eq := by
    rw [List.length_append, List.map_append, List.sum_append, h.length_eq, h'.length_eq]
  ok_of_calls hok := by
    rw [Event.busCalls_append] at hok
    exact h'.ok_of_calls fun call hmem => hok call (List.mem_append_right _ hmem)
  steps hok := by rw [List.map_append, h.steps rfl, h'.steps hok]

/-- Nothing follows a stretch that failed. -/
theorem stop (h : request.Staged bus pieces plan handed w outcome v events)
    (hne : outcome ≠ .ok ()) (more : List Span) (later : List Step) (rest : Bytes)
    (hrest : rest.length = (more.map Span.length).sum) :
    request.Staged bus (pieces ++ more) (plan ++ later) (handed ++ rest) w outcome v events where
  moved := h.moved.stop h.length_eq hne more rest
  length_eq := by rw [List.length_append, List.map_append, List.sum_append, h.length_eq, hrest]
  ok_of_calls := h.ok_of_calls
  steps hok := absurd hok hne

end Request.Staged

/-- How a stretch of a request ends that starts from the bus at `w` and the memory `m`: a
call at the boundary fails, or the pieces are moved.  A write hands the bus what the caller
has at `address`, if that is what is supplied. -/
inductive Request.Stretch (request : Request) (bus : RegisterBus ω ε) (boundary : Boundary μ)
    (pieces : List Span) (plan : List Step) (address : Nat) (supply : Bytes) (w : ω) (m : μ)
    (outcome : Outcome (RequestError ε) Unit) (v : ω) (m' : μ) (events : List (Event ε)) : Prop
  | refused : outcome ≠ .ok () → Event.Refused events →
      Stretch request bus boundary pieces plan address supply w m outcome v m' events
  | staged {inner : Outcome (AccessError ε) Unit} {handed : Bytes} :
      outcome = inner.mapError .access → handed.length = supply.length →
      request.Staged bus pieces plan handed w inner v events →
      bus.chunkSize v = bus.chunkSize w → bus.addressLimit v = bus.addressLimit w →
      (request.direction = .write → ∀ memory Grants, boundary.Honors memory Grants →
        memory m' = memory m ∧
          (supply = (memory m).read address supply.length → handed = supply)) →
      Stretch request bus boundary pieces plan address supply w m outcome v m' events

namespace Request.Stretch

variable {request : Request} {bus : RegisterBus ω ε} {boundary : Boundary μ}
  {pieces more : List Span} {plan later : List Step} {address : Nat} {supply rest : Bytes}
  {w v : ω} {m m' : μ} {outcome : Outcome (RequestError ε) Unit} {events : List (Event ε)}

theorem nil (request : Request) (bus : RegisterBus ω ε) (boundary : Boundary μ) (address : Nat)
    (w : ω) (m : μ) : request.Stretch bus boundary [] [] address [] w m (.ok ()) w m [] :=
  .staged rfl rfl (.nil request bus w) rfl rfl fun _ _ _ _ => ⟨rfl, fun _ => rfl⟩

/-- A stretch that was gone through leaves the reach of the bus as it was. -/
theorem reach
    (h : request.Stretch bus boundary pieces plan address supply w m (.ok ()) v m' events) :
    bus.chunkSize v = bus.chunkSize w ∧ bus.addressLimit v = bus.addressLimit w := by
  cases h with
  | refused hne => exact absurd rfl hne
  | staged _ _ _ hsize hlimit => exact ⟨hsize, hlimit⟩

theorem append {u : ω} {m'' : μ} {others : List (Event ε)}
    (h : request.Stretch bus boundary pieces plan address supply w m (.ok ()) v m' events)
    (h' : request.Stretch bus boundary more later (address + supply.length) rest v m' outcome u
      m'' others) :
    request.Stretch bus boundary (pieces ++ more) (plan ++ later) address (supply ++ rest) w m
      outcome u m'' (events ++ others) := by
  cases h with
  | refused hne => exact absurd rfl hne
  | @staged inner handed houtcome hlength hstaged hsize hlimit hwrite =>
    obtain rfl := Outcome.mapError_eq_ok.mp houtcome.symm
    cases h' with
    | refused hne hrefused => exact .refused hne (hrefused.after events)
    | @staged inner handed' houtcome hlength' hstaged' hsize' hlimit' hwrite' =>
      refine .staged houtcome ?_ (hstaged.append hstaged') (hsize'.trans hsize)
        (hlimit'.trans hlimit) fun hdirection memory Grants hhonors => ?_
      · rw [List.length_append, List.length_append, hlength, hlength']
      · obtain ⟨hsame, hhanded⟩ := hwrite hdirection memory Grants hhonors
        obtain ⟨hsame', hhanded'⟩ := hwrite' hdirection memory Grants hhonors
        refine ⟨hsame'.trans hsame, fun hsupplied => ?_⟩
        obtain ⟨hfirst, hrest⟩ := Contents.append_eq_read hsupplied
        rw [hhanded hfirst, hhanded' (hsame ▸ hrest)]

/-- Nothing follows a stretch that failed. -/
theorem stop (h : request.Stretch bus boundary pieces plan address supply w m outcome v m' events)
    (hne : outcome ≠ .ok ()) (more : List Span) (later : List Step)
    (hrest : rest.length = (more.map Span.length).sum) :
    request.Stretch bus boundary (pieces ++ more) (plan ++ later) address (supply ++ rest) w m
      outcome v m' events := by
  cases h with
  | refused _ hrefused => exact .refused hne hrefused
  | @staged inner handed houtcome hlength hstaged hsize hlimit hwrite =>
    have hinner : inner ≠ .ok () := fun h => hne (houtcome.trans (h ▸ rfl))
    refine .staged houtcome ?_ (hstaged.stop hinner more later rest hrest) hsize hlimit
      fun hdirection memory Grants hhonors => ?_
    · rw [List.length_append, List.length_append, hlength]
    · obtain ⟨hsame, hhanded⟩ := hwrite hdirection memory Grants hhonors
      exact ⟨hsame, fun hsupplied => by rw [hhanded (Contents.append_eq_read hsupplied).1]⟩

/-- If no call at the boundary fails, the pieces are moved. -/
theorem of_copies
    (h : request.Stretch bus boundary pieces plan address supply w m outcome v m' events)
    (hcopies : ∀ event ∈ events, event.failure? = none) :
    ∃ inner handed, outcome = inner.mapError .access ∧ handed.length = supply.length ∧
      request.Staged bus pieces plan handed w inner v events ∧
      (request.direction = .write → ∀ memory Grants, boundary.Honors memory Grants →
        supply = (memory m).read address supply.length → handed = supply) := by
  cases h with
  | refused _ hrefused =>
    obtain ⟨event, hmem, hfailure⟩ := hrefused
    exact absurd (hcopies event hmem) hfailure
  | staged houtcome hlength hstaged _ _ hwrite =>
    exact ⟨_, _, houtcome, hlength, hstaged, fun hdirection memory Grants hhonors =>
      (hwrite hdirection memory Grants hhonors).2⟩

end Request.Stretch

/-- Nothing follows a run that gave no value. -/
theorem Run.andThen_of_ne {σ δ : Type} {outcome : Outcome δ Unit} (h : outcome ≠ .ok ()) (s : σ)
    (next : Unit → σ → Run σ δ Unit) :
    Run.andThen ⟨outcome, s⟩ next = ⟨outcome, s⟩ := by
  cases outcome with
  | ok => exact absurd rfl h
  | error => rfl
  | trap => rfl

theorem RegisterBus.write_of_access {bus : RegisterBus ω ε} {register : UInt16}
    {data filled : Bytes} {w v : ω} {outcome : Outcome (AccessError ε) Unit}
    (h : bus.access .write register data w = ⟨outcome, (filled, v)⟩) :
    bus.write register data w = ⟨outcome, v⟩ := by
  obtain ⟨⟨ending, u⟩, hrun⟩ : ∃ run, bus.write register data w = run := ⟨_, rfl⟩
  simp only [access, hrun, Run.mapWorld] at h
  cases h
  exact hrun

namespace Endpoint

/-- The ending of a block, if its offset is one that can be reported. -/
theorem wholeTransfer_eq {base : Nat} {outcome : Outcome (AccessError ε) Unit}
    (h : ∀ direction offset e, outcome = .error (.bus direction offset e) →
      offset + base < AccessError.offsetLimit) :
    wholeTransfer base outcome
      = (outcome.mapError (AccessError.moveUp base)).mapError .access := by
  rcases outcome with _ | e | t
  · rfl
  · cases e with
    | bus direction offset source =>
      rw [wholeTransfer, AccessError.offsetBy, if_pos (h direction offset source rfl)]
      rfl
    | outOfRange => rfl
    | unknownSensor => rfl
  · rfl

variable {bus : RegisterBus ω ε} {w : ω} {request : Request} {offset length : Nat}

/-- The access of a block, as a stretch of its request. -/
theorem access_staged (hsteady : bus.Steady) (hchunk : 0 < bus.chunkSize w)
    (hspace : bus.addressLimit w ≤ registerSpace) {handed : Bytes}
    (hlimit : request.register.toNat + (offset + handed.length) ≤ bus.addressLimit w)
    {register : UInt16} (hregister : register.toNat = request.register.toNat + offset) :
    ∃ outcome filled v, ∃ calls : List (BusCall ε),
      (∀ log, bus.traced.access request.direction register handed (w, log)
        = ⟨outcome, (filled, (v, log ++ calls.map .bus))⟩) ∧
      wholeTransfer offset outcome
        = (outcome.mapError (AccessError.moveUp offset)).mapError .access ∧
      request.Staged bus ((Span.split (bus.chunkSize w) handed.length).map (Span.shift offset))
        (request.chunkSteps (bus.chunkSize w) ⟨offset, handed.length⟩) handed w
        (outcome.mapError (AccessError.moveUp offset)) v (calls.map .bus) ∧
      bus.chunkSize v = bus.chunkSize w ∧ bus.addressLimit v = bus.addressLimit w := by
  have htiles := Span.tiles_split hchunk handed.length
  have hreach : register.toNat + handed.length ≤ bus.addressLimit w := by
    rw [hregister]
    omega
  obtain ⟨outcome, filled, v, calls, hrun, hmoved, hchunks, hv⟩ :=
    hsteady.access request.direction register hchunk hspace hreach
  refine ⟨outcome, filled, v, calls, hrun, wholeTransfer_eq ?_, ⟨?_, ?_, ?_, ?_⟩, hv⟩
  -- An offset is within the register space, and far from an overflow.
  · rintro direction reported e rfl
    obtain ⟨piece, hmem, e, hcause⟩ := hchunks.of_error
    cases hcause
    have hlt := htiles.offset_lt hmem
    have hspace' : registerSpace < AccessError.offsetLimit := by decide
    omega
  · rw [Event.busCalls_map_bus]
    refine hmoved.shift hregister fun piece hmem => ?_
    have := htiles.offset_lt hmem
    omega
  · have hsum := htiles.sum_lengths
    rw [Nat.zero_add] at hsum
    rw [List.map_map]
    exact hsum.symm
  · rw [Event.busCalls_map_bus]
    exact fun hok => Outcome.mapError_eq_ok.mpr (hchunks.ok_iff.mpr hok)
  · intro hok
    obtain rfl := Outcome.mapError_eq_ok.mp hok
    rw [hchunks.map_step, hregister]
    rfl

theorem sendBlock_staged (hsteady : bus.Steady) (boundary : Boundary μ)
    (hchunk : 0 < bus.chunkSize w) (hspace : bus.addressLimit w ≤ registerSpace)
    (hdirection : request.direction = .write) (hle : length ≤ stagingSize)
    (hlimit : request.register.toNat + (offset + length) ≤ bus.addressLimit w)
    {register : UInt16} (hregister : register.toNat = request.register.toNat + offset)
    {address : UInt64} (haddress : address.toNat = request.buffer.toNat + offset)
    (staging : Staging) (m : μ) (log : List (Event ε)) {supply : Bytes}
    (hsupply : supply.length = length) :
    ∃ outcome staging' v m' events,
      sendBlock (bus.beside μ).traced ((boundary.after ω).traced ε) register address
          ⟨offset, length⟩ staging ((w, m), log)
        = ⟨outcome, (staging', ((v, m'), log ++ events))⟩ ∧
      request.Stretch bus boundary
        ((Span.split (bus.chunkSize w) length).map (Span.shift offset))
        (request.blockSteps (bus.chunkSize w) ⟨offset, length⟩) (request.buffer.toNat + offset)
        supply w m outcome v m' events := by
  obtain ⟨⟨answer, m'⟩, hcopy⟩ : ∃ run, boundary.copyIn address length m = run := ⟨_, rfl⟩
  cases answer with
  | error e =>
    refine ⟨.error (.buffer e), staging, w, m', [.copyIn address length (some e)], ?_,
      .refused Outcome.error_ne_ok (.single rfl)⟩
    exact sendBlock_traced_of_error hle hcopy
  | ok bytes =>
    have hsize : bytes.toList.length = length := bytes.length_toList
    obtain ⟨inner, filled, v, calls, hrun, hwhole, hstaged, hv, hv'⟩ :=
      access_staged hsteady hchunk hspace (hsize ▸ hlimit) hregister
    rw [hdirection] at hrun
    rw [hsize] at hstaged
    have hwrite : ∀ log, bus.traced.write register bytes.toList (w, log)
        = ⟨inner, (v, log ++ calls.map .bus)⟩ :=
      fun log => RegisterBus.write_of_access (hrun log)
    have hcopied : Event.busCall? (.copyIn address length none : Event ε) = none := rfl
    refine ⟨wholeTransfer offset inner, staging.put bytes.toList, v, m',
      .copyIn address length none :: calls.map .bus, ?_,
      .staged hwhole (hsize.trans hsupply.symm) ?_ hv hv' fun _ memory Grants hhonors => ?_⟩
    · exact sendBlock_traced_of_ok hle hcopy (hwrite _)
    · rw [Request.blockSteps_write _ hdirection, ← haddress]
      exact (Request.Staged.single request bus w hcopied).append hstaged
    · obtain ⟨answer, u, hanswer, hmemory, _, hends⟩ := hhonors.copyIn address length m
      rw [hcopy] at hanswer
      obtain ⟨rfl, rfl⟩ := hanswer
      obtain ⟨_, ⟨⟩, hbytes⟩ | ⟨_, he, _⟩ := hends
      · refine ⟨hmemory, fun hsupplied => ?_⟩
        rw [hsupplied, hsupply, ← haddress]
        exact hbytes
      · cases he

theorem fetchBlock_staged (hsteady : bus.Steady) (boundary : Boundary μ)
    (hchunk : 0 < bus.chunkSize w) (hspace : bus.addressLimit w ≤ registerSpace)
    (hdirection : request.direction = .read) (hle : length ≤ stagingSize)
    (hlimit : request.register.toNat + (offset + length) ≤ bus.addressLimit w)
    {register : UInt16} (hregister : register.toNat = request.register.toNat + offset)
    {address : UInt64} (haddress : address.toNat = request.buffer.toNat + offset)
    (staging : Staging) (m : μ) (log : List (Event ε)) {supply : Bytes}
    (hsupply : supply.length = length) :
    ∃ outcome staging' v m' events,
      fetchBlock (bus.beside μ).traced ((boundary.after ω).traced ε) register address
          ⟨offset, length⟩ staging ((w, m), log)
        = ⟨outcome, (staging', ((v, m'), log ++ events))⟩ ∧
      request.Stretch bus boundary
        ((Span.split (bus.chunkSize w) length).map (Span.shift offset))
        (request.blockSteps (bus.chunkSize w) ⟨offset, length⟩) (request.buffer.toNat + offset)
        supply w m outcome v m' events := by
  have hsize : (staging.front length).length = length := staging.length_front hle
  obtain ⟨inner, filled, v, calls, hrun, hwhole, hstaged, hv, hv'⟩ :=
    access_staged hsteady hchunk hspace (hsize.symm ▸ hlimit) hregister
  rw [hdirection] at hrun
  rw [hsize] at hstaged
  have hread : ∀ log, bus.traced.read register (staging.front length) (w, log)
      = ⟨inner, (filled, (v, log ++ calls.map .bus))⟩ := hrun
  have hlength := hsize.trans hsupply.symm
  have hnot : ¬request.direction = .write := hdirection ▸ (by decide)
  rw [Request.blockSteps_read _ hdirection]
  -- Nothing is copied unless the block was read to its end.
  by_cases hok : inner = .ok ()
  · subst hok
    have hput : ((staging.put filled).front length).length = length :=
      (staging.put filled).length_front hle
    obtain ⟨⟨answer, m'⟩, hcopy⟩ : ∃ run,
      boundary.copyOut address ((staging.put filled).front length) m = run := ⟨_, rfl⟩
    refine ⟨copyEnding answer, staging.put filled, v, m', calls.map .bus
      ++ [.copyOut address ((staging.put filled).front length) (failureOf answer)], ?_, ?_⟩
    · exact fetchBlock_traced_of_ok (hread log) hcopy
    cases answer with
    | error e => exact .refused Outcome.error_ne_ok ((Event.Refused.single rfl).after _)
    | ok =>
      have hcopied : Event.busCall?
          (.copyOut address ((staging.put filled).front length) none : Event ε) = none := rfl
      have hfetched := hstaged.append (Request.Staged.single request bus v hcopied)
      rw [List.append_nil, List.append_nil, Event.step, hput, haddress] at hfetched
      exact .staged rfl hlength hfetched hv hv' fun h => absurd h hnot
  · have hfetched := hstaged.stop (fun h => hok (Outcome.mapError_eq_ok.mp h)) []
      [.copy .read (request.buffer.toNat + offset) length] [] rfl
    rw [List.append_nil, List.append_nil] at hfetched
    refine ⟨wholeTransfer offset inner, staging.put filled, v, m, calls.map .bus, ?_,
      .staged hwhole hlength hfetched hv hv' fun h => absurd h hnot⟩
    exact fetchBlock_traced_of_ne (hread log) hok m

/-- A block is a stretch of its request. -/
theorem moveBlock_staged (hsteady : bus.Steady) (boundary : Boundary μ)
    (hchunk : 0 < bus.chunkSize w) (hspace : bus.addressLimit w ≤ registerSpace)
    (hle : length ≤ stagingSize)
    (hlimit : request.register.toNat + (offset + length) ≤ bus.addressLimit w)
    {register : UInt16} (hregister : register.toNat = request.register.toNat + offset)
    {address : UInt64} (haddress : address.toNat = request.buffer.toNat + offset)
    (staging : Staging) (m : μ) (log : List (Event ε)) {supply : Bytes}
    (hsupply : supply.length = length) :
    ∃ outcome staging' v m' events,
      moveBlock (bus.beside μ).traced ((boundary.after ω).traced ε) request.direction register
          address ⟨offset, length⟩ staging ((w, m), log)
        = ⟨outcome, (staging', ((v, m'), log ++ events))⟩ ∧
      request.Stretch bus boundary
        ((Span.split (bus.chunkSize w) length).map (Span.shift offset))
        (request.blockSteps (bus.chunkSize w) ⟨offset, length⟩) (request.buffer.toNat + offset)
        supply w m outcome v m' events := by
  cases hdirection : request.direction with
  | write =>
    rw [moveBlock_write hle]
    exact sendBlock_staged hsteady boundary hchunk hspace hdirection hle hlimit hregister haddress
      staging m log hsupply
  | read =>
    rw [moveBlock_read hle]
    exact fetchBlock_staged hsteady boundary hchunk hspace hdirection hle hlimit hregister haddress
      staging m log hsupply

/-- Blocks are a stretch of their request. -/
theorem moveBlocks_staged (hsteady : bus.Steady) (boundary : Boundary μ) {start stop size : Nat}
    {blocks : List Span} (htiles : Span.Tiles stagingSize start blocks stop)
    (hsize : bus.chunkSize w = size) (hchunk : 0 < size)
    (hspace : bus.addressLimit w ≤ registerSpace)
    (hlimit : request.register.toNat + stop ≤ bus.addressLimit w)
    (hbuffer : request.buffer.toNat + stop ≤ UInt64.size) (staging : Staging) (m : μ)
    (log : List (Event ε)) {supply : Bytes} (hsupply : start + supply.length = stop) :
    ∃ outcome staging' v m' events,
      moveBlocks (bus.beside μ).traced ((boundary.after ω).traced ε) request blocks staging
          ((w, m), log)
        = ⟨outcome, (staging', ((v, m'), log ++ events))⟩ ∧
      request.Stretch bus boundary (Span.recut size blocks)
        (blocks.flatMap (request.blockSteps size)) (request.buffer.toNat + start) supply w m
        outcome v m' events := by
  -- The induction is on the tiling; what is left of the supply goes with what is left to do.
  induction htiles generalizing w staging m log supply with
  | nil offset =>
    obtain rfl : supply = [] := List.eq_nil_of_length_eq_zero (by omega)
    exact ⟨.ok (), staging, w, m, [], by rw [moveBlocks, List.append_nil], .nil ..⟩
  | @cons offset length stop blocks _ hpos hle htail ih =>
    have hstop := htail.le
    obtain ⟨register, hregister, hregisterNat⟩ :=
      RegisterBus.Serves.registerAt_piece request.register offset
        (show request.register.toNat + offset < bus.addressLimit w by omega) hspace
    obtain ⟨address, haddress, haddressNat⟩ :=
      addressAt_of_lt (show request.buffer.toNat + offset < UInt64.size by omega)
    obtain ⟨part, rest, rfl, hpart⟩ :
        ∃ part rest, supply = part ++ rest ∧ part.length = length := by
      refine ⟨supply.take length, supply.drop length, (List.take_append_drop ..).symm, ?_⟩
      rw [List.length_take]
      omega
    rw [List.length_append, hpart, ← Nat.add_assoc] at hsupply
    subst hsize
    obtain ⟨outcome, staging', v, m', events, hrun, hstretch⟩ :=
      moveBlock_staged hsteady boundary hchunk hspace hle
        (show request.register.toNat + (offset + length) ≤ bus.addressLimit w by omega)
        hregisterNat haddressNat staging m log hpart
    simp only [moveBlocks, hregister, haddress, hrun]
    rw [Span.recut_cons, List.flatMap_cons]
    by_cases hok : outcome = .ok ()
    · subst hok
      obtain ⟨hv, hv'⟩ := hstretch.reach
      obtain ⟨outcome, staging'', u, m'', more, hrest, hstretch'⟩ :=
        ih hv (hv' ▸ hspace) (by rw [hv']; exact hlimit) hbuffer staging' m' (log ++ events) hsupply
      rw [← hpart, ← Nat.add_assoc] at hstretch'
      refine ⟨outcome, staging'', u, m'', events ++ more, ?_, hstretch.append hstretch'⟩
      rw [Run.andThen_ok, hrest, List.append_assoc]
    · have hsum := Span.sum_recut htail hchunk
      exact ⟨outcome, staging', v, m', events, Run.andThen_of_ne hok ..,
        hstretch.stop hok _ _ (by omega)⟩

/-- A request is a stretch from its first piece to its last. -/
theorem execute_staged (hsteady : bus.Steady) (boundary : Boundary μ) (request : Request)
    (staging : Staging) (m : μ) (hchunk : 0 < bus.chunkSize w)
    (hspace : bus.addressLimit w ≤ registerSpace)
    (hspan : request.register.toNat + request.length.toNat ≤ bus.addressLimit w)
    (hbuffer : request.buffer.toNat + request.length.toNat ≤ UInt64.size) {supply : Bytes}
    (hsupply : supply.length = request.length.toNat) :
    let events := calls (bus.beside μ) (boundary.after ω) request staging (w, m)
    let run := execute (bus.beside μ) (boundary.after ω) request staging (w, m)
    request.Stretch bus boundary
      (Span.recut (bus.chunkSize w) (Span.split stagingSize request.length.toNat))
      (request.plan (bus.chunkSize w)) request.buffer.toNat supply w m run.outcome run.world.2.1
      run.world.2.2 events := by
  intro events run
  obtain ⟨houtcome, hworld⟩ :=
    execute_traced (ε := ε) (bus.beside μ) (boundary.after ω) request staging (w, m)
  simp only [events, run, calls, ← houtcome, ← hworld, Request.plan]
  by_cases hzero : request.length.toNat = 0
  · have hspan : request.register.toNat + request.length.toNat
        ≤ (bus.beside μ).traced.addressLimit ((w, m), []) := hspan
    have hrun : execute (bus.beside μ).traced ((boundary.after ω).traced ε) request staging
        ((w, m), []) = ⟨.ok (), (staging, ((w, m), []))⟩ :=
      execute_of_zero (bus.beside μ).traced _ staging hspan hzero
    obtain rfl : supply = [] := List.eq_nil_of_length_eq_zero (hsupply.trans hzero)
    rw [hrun, hzero, Span.split_zero]
    exact .nil ..
  obtain ⟨⟨answer, m'⟩, hcheck⟩ : ∃ run,
    boundary.check request.buffer request.length.toNat m = run := ⟨_, rfl⟩
  have hnoted : ((boundary.after ω).traced ε).check request.buffer request.length.toNat
      ((w, m), []) = (answer, ((w, m'),
        [.check request.buffer request.length.toNat (failureOf answer)])) :=
    Boundary.check_traced_after hcheck w []
  cases answer with
  | error e =>
    rw [execute_of_check_error (bus.beside μ).traced _ staging hspan hzero hnoted]
    exact .refused Outcome.error_ne_ok (.single rfl)
  | ok =>
    have hchecked : Event.busCall?
        (.check request.buffer request.length.toNat none : Event ε) = none := rfl
    have hfirst : request.Stretch bus boundary []
        [.check request.buffer.toNat request.length.toNat] request.buffer.toNat [] w m (.ok ()) w m'
        [.check request.buffer request.length.toNat none] := by
      refine .staged rfl rfl (.single request bus w hchecked) rfl rfl
        fun _ memory Grants hhonors => ⟨?_, fun _ => rfl⟩
      obtain ⟨_, u, hanswer, hmemory, _⟩ := hhonors.check request.buffer request.length.toNat m
      rw [hcheck] at hanswer
      obtain ⟨rfl, rfl⟩ := hanswer
      exact hmemory
    rw [execute_of_check (bus.beside μ).traced _ staging hspan hzero hnoted, if_neg hzero]
    obtain ⟨outcome, staging', v, m'', events, hrun, hstretch⟩ :=
      moveBlocks_staged hsteady boundary (Span.tiles_split (by decide) request.length.toNat) rfl
        hchunk hspace hspan hbuffer staging m'
        [.check request.buffer request.length.toNat (failureOf (.ok ()))]
        ((Nat.zero_add _).trans hsupply)
    rw [hrun]
    exact hfirst.append hstretch

end Endpoint

end SensorLink

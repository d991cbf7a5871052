/-
The control endpoint of a sensor.

A caller sends a command number and an argument.  A transfer reads its request
from caller memory, checks the register span and the caller's buffer as a whole,
and then moves the bytes block by block through a staging buffer.  A wait looks
at the data-ready flag of the sensor.

* `RequestError` — why a command failed, `RequestError.status` — its number;
* `commandStatus` — the number of any result;
* `Endpoint` — the state of an endpoint;
* `execute`, `transfer`, `dispatch` — a request, a request in caller memory, any
  command;
* `complete` — a command that is polled again until it comes to its end;
* `sendBlock_of_ok`, `fetchBlock_of_ok`, `execute_of_check` — what a block and a request do, by
  the answers that they get.

Design notes.  Bus and boundary act on one world, so that the order of their
calls can be seen there.
-/
import SensorLink.Bytes.Scratch
import SensorLink.Control.Boundary
import SensorLink.Control.Command
import SensorLink.Control.Request
import SensorLink.Readiness
import SensorLink.Register.Access

namespace SensorLink

/-- Why a command failed; `ε` are the errors of the bus. -/
inductive RequestError (ε : Type) where
  /-- No command has this number. -/
  | unknownCommand (number : UInt32)
  /-- The request could not be fetched. -/
  | record (cause : CopyError)
  /-- The caller's buffer could not be reached. -/
  | buffer (cause : CopyError)
  /-- The sensor could not be accessed. -/
  | access (cause : AccessError ε)
  /-- The wait was cancelled. -/
  | interrupted
  deriving DecidableEq, Repr

namespace RequestError

variable {ε δ : Type}

/-- The status number of an error: an invalid argument, a failed transfer or an
interrupted call. -/
def status : RequestError ε → Int
  | unknownCommand _ => -22
  | record _ => -22
  | buffer _ => -14
  | access _ => -14
  | interrupted => -4

/-- The error in words, given words for the errors of the bus. -/
def message (describe : ε → String) : RequestError ε → String
  | unknownCommand number => s!"unknown command 0x{hexText 8 number.toNat}"
  | record cause => s!"transfer descriptor: {cause.message}"
  | buffer cause => s!"transfer buffer: {cause.message}"
  | access cause => cause.message describe
  | interrupted => "interrupted"

/-- Applies `f` to the error of the bus. -/
def map (f : ε → δ) : RequestError ε → RequestError δ
  | unknownCommand number => unknownCommand number
  | record cause => record cause
  | buffer cause => buffer cause
  | access cause => access (cause.map f)
  | interrupted => interrupted

end RequestError

/-- Where a command that was polled once has come to. -/
inductive Completion where
  | done
  | pending
  deriving DecidableEq, Repr

/-- The status number of a command that has come to its end: zero if it succeeded, and else
that of its error. -/
def commandStatus {ε : Type} : Outcome (RequestError ε) Completion → Option Int
  | .ok .done => some 0
  | .ok .pending => none
  | .error e => some e.status
  | .trap _ => none

/-- The number of bytes that are moved through the staging buffer at a time. -/
def stagingSize : Nat := 1024

/-- The staging buffer of an endpoint. -/
abbrev Staging := Scratch stagingSize

/-- The caller address that lies `offset` above `address`, as long as sixty-four
bits hold it. -/
def addressAt (address : UInt64) (offset : Nat) : Option UInt64 :=
  if address.toNat + offset < UInt64.size then some (address + UInt64.ofNat offset) else none

theorem addressAt_of_lt {address : UInt64} {offset : Nat}
    (h : address.toNat + offset < UInt64.size) :
    ∃ target, addressAt address offset = some target ∧
      target.toNat = address.toNat + offset := by
  refine ⟨_, if_pos h, ?_⟩
  rw [UInt64.toNat_add, UInt64.toNat_ofNat', Nat.add_mod_mod, Nat.mod_eq_of_lt h]

theorem addressAt_of_le {address : UInt64} {offset : Nat}
    (h : UInt64.size ≤ address.toNat + offset) : addressAt address offset = none :=
  if_neg (Nat.not_lt.mpr h)

theorem toNat_of_addressAt {address target : UInt64} {offset : Nat}
    (h : addressAt address offset = some target) : target.toNat = address.toNat + offset := by
  rcases Nat.lt_or_ge (address.toNat + offset) UInt64.size with hlt | hge
  · obtain ⟨other, hother, htoNat⟩ := addressAt_of_lt hlt
    obtain rfl : other = target := Option.some.inj (hother.symm.trans h)
    exact htoNat
  · cases (addressAt_of_le hge).symm.trans h

/-- The state of an endpoint beside its world: its staging buffer and the
data-ready flag of its sensor. -/
structure Endpoint (ρ : Type) where
  staging : Staging
  readiness : ρ

namespace Endpoint

variable {ω ε ι ρ : Type}

/-- The ending of a block's access, told for the whole transfer. -/
def wholeTransfer (base : Nat) : Outcome (AccessError ε) Unit → Outcome (RequestError ε) Unit
  | .ok _ => .ok ()
  | .error e =>
    match e.offsetBy base with
    | some e => .error (.access e)
    | none => .trap .offsetOverflow
  | .trap t => .trap t

/-- Moves a block from caller memory to the registers. -/
def sendBlock (bus : RegisterBus ω ε) (boundary : Boundary ω) (register : UInt16)
    (address : UInt64) (block : Span) (staging : Staging) (w : ω) :
    Run (Staging × ω) (RequestError ε) Unit :=
  match boundary.copyInto address (staging.front block.length) w with
  | (.error e, (bytes, w)) => ⟨.error (.buffer e), (staging.put bytes, w)⟩
  | (.ok _, (bytes, w)) =>
    let staging := staging.put bytes
    match bus.write register (staging.front block.length) w with
    | ⟨outcome, w⟩ => ⟨wholeTransfer block.offset outcome, (staging, w)⟩

/-- Moves a block from the registers to caller memory. -/
def fetchBlock (bus : RegisterBus ω ε) (boundary : Boundary ω) (register : UInt16)
    (address : UInt64) (block : Span) (staging : Staging) (w : ω) :
    Run (Staging × ω) (RequestError ε) Unit :=
  match bus.read register (staging.front block.length) w with
  | ⟨.ok _, (bytes, w)⟩ =>
    let staging := staging.put bytes
    match boundary.copyOut address (staging.front block.length) w with
    | (.ok _, w) => ⟨.ok (), (staging, w)⟩
    | (.error e, w) => ⟨.error (.buffer e), (staging, w)⟩
  | ⟨outcome, (bytes, w)⟩ => ⟨wholeTransfer block.offset outcome, (staging.put bytes, w)⟩

/-- Moves a block in the direction of its request, through a front of the staging buffer
that is as long as the block. -/
def moveBlock (bus : RegisterBus ω ε) (boundary : Boundary ω) (direction : Direction)
    (register : UInt16) (address : UInt64) (block : Span) (staging : Staging) (w : ω) :
    Run (Staging × ω) (RequestError ε) Unit :=
  if stagingSize < block.length then ⟨.trap .outOfBounds, (staging, w)⟩
  else
    match direction with
    | .write => sendBlock bus boundary register address block staging w
    | .read => fetchBlock bus boundary register address block staging w

section Block

variable {bus : RegisterBus ω ε} {boundary : Boundary ω} {register : UInt16} {address : UInt64}
  {block : Span} {staging : Staging} {w v u : ω}

theorem moveBlock_write (hle : block.length ≤ stagingSize) :
    moveBlock bus boundary .write register address block staging w
      = sendBlock bus boundary register address block staging w :=
  if_neg (Nat.not_lt.mpr hle)

theorem moveBlock_read (hle : block.length ≤ stagingSize) :
    moveBlock bus boundary .read register address block staging w
      = fetchBlock bus boundary register address block staging w :=
  if_neg (Nat.not_lt.mpr hle)

/-- A block that the staging buffer is too short for is not moved. -/
theorem moveBlock_of_lt {direction : Direction} (hlt : stagingSize < block.length) :
    moveBlock bus boundary direction register address block staging w
      = ⟨.trap .outOfBounds, (staging, w)⟩ :=
  if_pos hlt

/-- A block that is not fetched from the caller is not sent. -/
theorem sendBlock_of_error {e : CopyError} (hle : block.length ≤ stagingSize)
    (hcopy : boundary.copyIn address block.length w = (.error e, v)) :
    sendBlock bus boundary register address block staging w
      = ⟨.error (.buffer e), (staging, v)⟩ := by
  simp only [sendBlock, Boundary.copyInto_of_error hcopy (staging.length_front hle),
    Scratch.put_front]

/-- A block is written as it was fetched. -/
theorem sendBlock_of_ok {bytes : Vector UInt8 block.length}
    {outcome : Outcome (AccessError ε) Unit} (hle : block.length ≤ stagingSize)
    (hcopy : boundary.copyIn address block.length w = (.ok bytes, v))
    (hwrite : bus.write register bytes.toList v = ⟨outcome, u⟩) :
    sendBlock bus boundary register address block staging w
      = ⟨wholeTransfer block.offset outcome, (staging.put bytes.toList, u)⟩ := by
  simp only [sendBlock, Boundary.copyInto_of_ok hcopy (staging.length_front hle),
    staging.front_put_of_length bytes.length_toList hle, hwrite]

/-- The ending of a copy to the caller, told for the whole transfer. -/
def copyEnding : Except CopyError Unit → Outcome (RequestError ε) Unit
  | .ok _ => .ok ()
  | .error e => .error (.buffer e)

/-- What was read is handed out from the staging buffer. -/
theorem fetchBlock_of_ok {filled : Bytes} {answer : Except CopyError Unit}
    (hread : bus.read register (staging.front block.length) w = ⟨.ok (), (filled, v)⟩)
    (hcopy : boundary.copyOut address ((staging.put filled).front block.length) v = (answer, u)) :
    fetchBlock bus boundary register address block staging w
      = ⟨copyEnding answer, (staging.put filled, u)⟩ := by
  simp only [fetchBlock, hread, hcopy]
  cases answer <;> rfl

/-- Nothing is handed out unless the block was read to its end. -/
theorem fetchBlock_of_ne {filled : Bytes} {outcome : Outcome (AccessError ε) Unit}
    (hread : bus.read register (staging.front block.length) w = ⟨outcome, (filled, v)⟩)
    (hne : outcome ≠ .ok ()) :
    fetchBlock bus boundary register address block staging w
      = ⟨wholeTransfer block.offset outcome, (staging.put filled, v)⟩ := by
  cases outcome with
  | ok => exact absurd rfl hne
  | error e => rw [fetchBlock, hread]
  | trap t => rw [fetchBlock, hread]

end Block

/-- Moves the blocks of a request in order. -/
def moveBlocks (bus : RegisterBus ω ε) (boundary : Boundary ω) (request : Request) :
    List Span → Staging → ω → Run (Staging × ω) (RequestError ε) Unit
  | [], staging, w => ⟨.ok (), (staging, w)⟩
  | block :: blocks, staging, w =>
    match registerAt request.register block.offset, addressAt request.buffer block.offset with
    | none, _ => ⟨.trap .registerOverflow, (staging, w)⟩
    | some _, none => ⟨.error (.buffer ⟨request.buffer, request.length.toNat⟩), (staging, w)⟩
    | some register, some address =>
      (moveBlock bus boundary request.direction register address block staging w).andThen
        fun _ (staging, w) => moveBlocks bus boundary request blocks staging w

/-- Where the first of some blocks can lead: its register overflows, its address
overflows, or it is moved and the others follow. -/
theorem moveBlocks_cons_cases (bus : RegisterBus ω ε) (boundary : Boundary ω) (request : Request)
    (block : Span) (blocks : List Span) (staging : Staging) (w : ω) :
    let run := moveBlocks bus boundary request (block :: blocks) staging w
    (registerAt request.register block.offset = none ∧
        run = ⟨.trap .registerOverflow, (staging, w)⟩) ∨
      (UInt64.size ≤ request.buffer.toNat + block.offset ∧
        run = ⟨.error (.buffer ⟨request.buffer, request.length.toNat⟩), (staging, w)⟩) ∨
      ∃ register address, registerAt request.register block.offset = some register ∧
        address.toNat = request.buffer.toNat + block.offset ∧
        run = (moveBlock bus boundary request.direction register address block staging w).andThen
          fun _ p => moveBlocks bus boundary request blocks p.1 p.2 := by
  intro run
  have hrun : run = moveBlocks bus boundary request (block :: blocks) staging w := rfl
  rw [moveBlocks] at hrun
  cases hregister : registerAt request.register block.offset with
  | none =>
    rw [hregister] at hrun
    exact .inl ⟨rfl, hrun⟩
  | some register =>
    rcases Nat.lt_or_ge (request.buffer.toNat + block.offset) UInt64.size with hlt | hge
    · obtain ⟨address, haddress, haddressNat⟩ := addressAt_of_lt hlt
      rw [hregister, haddress] at hrun
      exact .inr (.inr ⟨register, address, rfl, haddressNat, hrun⟩)
    · rw [hregister, addressAt_of_le hge] at hrun
      exact .inr (.inl ⟨hge, hrun⟩)

/-- Moves what follows the first `done` bytes of a request: the next block, as long as the
staging buffer unless it is the last, and then what follows that. -/
def moveRest (bus : RegisterBus ω ε) (boundary : Boundary ω) (request : Request) (done : Nat)
    (staging : Staging) (w : ω) : Run (Staging × ω) (RequestError ε) Unit :=
  if _ : done < request.length.toNat then
    let length := min (request.length.toNat - done) stagingSize
    match registerAt request.register done, addressAt request.buffer done with
    | none, _ => ⟨.trap .registerOverflow, (staging, w)⟩
    | some _, none => ⟨.error (.buffer ⟨request.buffer, request.length.toNat⟩), (staging, w)⟩
    | some register, some address =>
      (moveBlock bus boundary request.direction register address ⟨done, length⟩ staging w).andThen
        fun _ (staging, w) => moveRest bus boundary request (done + length) staging w
  else ⟨.ok (), (staging, w)⟩
termination_by request.length.toNat - done
decreasing_by
  have : 0 < stagingSize := by decide
  omega

/-- The blocks that are moved are those that the request is cut into. -/
theorem moveRest_eq_moveBlocks (bus : RegisterBus ω ε) (boundary : Boundary ω)
    (request : Request) (done : Nat) (staging : Staging) (w : ω) :
    moveRest bus boundary request done staging w
      = moveBlocks bus boundary request
          ((Span.split stagingSize (request.length.toNat - done)).map (Span.shift done))
          staging w := by
  fun_induction moveRest bus boundary request done staging w with
  | case1 done staging w hdone hregister =>
    rw [Span.split_from (by decide) hdone]
    simp only [moveBlocks, hregister]
  | case2 done staging w hdone register haddress hregister =>
    rw [Span.split_from (by decide) hdone]
    simp only [moveBlocks, hregister, haddress]
  | case3 done staging w hdone length register address haddress hregister ih =>
    rw [Span.split_from (by decide) hdone]
    simp only [moveBlocks, hregister, haddress]
    exact congrArg _ (funext fun _ => funext fun p => ih p.1 p.2)
  | case4 done staging w hdone =>
    rw [Nat.sub_eq_zero_of_le (Nat.le_of_not_lt hdone), Span.split_zero]
    rfl

/-- Carries out a request.  Nothing is moved unless the registers and, for a
transfer of at least one byte, the caller's buffer pass a check as a whole. -/
def execute (bus : RegisterBus ω ε) (boundary : Boundary ω) (request : Request)
    (staging : Staging) (w : ω) : Run (Staging × ω) (RequestError ε) Unit :=
  let length := request.length.toNat
  match checkSpan request.register length (bus.addressLimit w) with
  | .error e => ⟨.error (.access e), (staging, w)⟩
  | .ok _ =>
    if length = 0 then ⟨.ok (), (staging, w)⟩
    else
      match boundary.check request.buffer length w with
      | (.error e, w) => ⟨.error (.buffer e), (staging, w)⟩
      | (.ok _, w) => moveRest bus boundary request 0 staging w

section Execute

variable (bus : RegisterBus ω ε) (boundary : Boundary ω) {request : Request} (staging : Staging)
  {w v : ω}

/-- A request past the limit is refused before anything is called. -/
theorem execute_of_lt
    (hlimit : bus.addressLimit w < request.register.toNat + request.length.toNat) :
    execute bus boundary request staging w
      = ⟨.error (.access (.outOfRange request.register request.length.toNat)), (staging, w)⟩ := by
  simp only [execute, checkSpan_of_lt hlimit]

/-- So is nothing called for a request of no bytes. -/
theorem execute_of_zero
    (hspan : request.register.toNat + request.length.toNat ≤ bus.addressLimit w)
    (hzero : request.length.toNat = 0) :
    execute bus boundary request staging w = ⟨.ok (), (staging, w)⟩ := by
  simp only [execute, checkSpan_of_le hspan, if_pos hzero]

/-- A request whose buffer does not pass the check is refused. -/
theorem execute_of_check_error {cause : CopyError}
    (hspan : request.register.toNat + request.length.toNat ≤ bus.addressLimit w)
    (hne : request.length.toNat ≠ 0)
    (hcheck : boundary.check request.buffer request.length.toNat w = (.error cause, v)) :
    execute bus boundary request staging w = ⟨.error (.buffer cause), (staging, v)⟩ := by
  simp only [execute, checkSpan_of_le hspan, if_neg hne, hcheck]

/-- A request that passes its checks goes on to its blocks. -/
theorem execute_of_check
    (hspan : request.register.toNat + request.length.toNat ≤ bus.addressLimit w)
    (hne : request.length.toNat ≠ 0)
    (hcheck : boundary.check request.buffer request.length.toNat w = (.ok (), v)) :
    execute bus boundary request staging w
      = moveBlocks bus boundary request (Span.split stagingSize request.length.toNat) staging
        v := by
  simp only [execute, checkSpan_of_le hspan, if_neg hne, hcheck]
  rw [moveRest_eq_moveBlocks, Nat.sub_zero, Span.map_shift_zero]

end Execute

/-- Fetches the request at `address` from caller memory and carries it out. -/
def transfer (bus : RegisterBus ω ε) (boundary : Boundary ω) (address : UInt64)
    (staging : Staging) (w : ω) : Run (Staging × ω) (RequestError ε) Unit :=
  match boundary.copyIn address Request.recordLength w with
  | (.error e, w) => ⟨.error (.record e), (staging, w)⟩
  | (.ok record, w) => execute bus boundary (Request.decode record) staging w

/-- Looks once whether the sensor has data; the flag comes before `cancelled`. -/
def waitForInterrupt (bridge : Bridge ι ρ) (waiter : ι) (cancelled : Bool) (readiness : ρ) :
    Run ρ (RequestError ε) Completion :=
  match bridge.pollOr .gate waiter (readiness, cancelled) with
  | ⟨.ready, _, readiness, _⟩ => ⟨.ok .done, readiness⟩
  | ⟨.pending, _, readiness, _⟩ => ⟨.ok .pending, readiness⟩
  | ⟨.interrupted, _, readiness, _⟩ => ⟨.error .interrupted, readiness⟩

/-- Carries out the command with a number, as far as one poll gets. -/
def dispatch (bridge : Bridge ι ρ) (bus : RegisterBus ω ε) (boundary : Boundary ω)
    (number : UInt32) (argument : UInt64) (waiter : ι) (cancelled : Bool) (endpoint : Endpoint ρ)
    (w : ω) : Run (Endpoint ρ × ω) (RequestError ε) Completion :=
  match Command.ofNumber number with
  | .error number => ⟨.error (.unknownCommand number), (endpoint, w)⟩
  | .ok .transfer =>
    ((transfer bus boundary argument endpoint.staging w).map fun _ => .done).mapWorld
      fun (staging, w) => (⟨staging, endpoint.readiness⟩, w)
  | .ok .waitForInterrupt =>
    (waitForInterrupt bridge waiter cancelled endpoint.readiness).mapWorld
      fun readiness => (⟨endpoint.staging, readiness⟩, w)

/-- Polls a command, once for each waiter with whether its wait is cancelled by then, until
it comes to its end.  Only a wait is ever pending, and then it looks at the flag again. -/
def complete (bridge : Bridge ι ρ) (bus : RegisterBus ω ε) (boundary : Boundary ω)
    (number : UInt32) (argument : UInt64) :
    List (ι × Bool) → Endpoint ρ → ω → Run (Endpoint ρ × ω) (RequestError ε) Completion
  | [], endpoint, w => ⟨.ok .pending, (endpoint, w)⟩
  | (waiter, cancelled) :: polls, endpoint, w =>
    match dispatch bridge bus boundary number argument waiter cancelled endpoint w with
    | ⟨.ok .pending, (endpoint, w)⟩ =>
      complete bridge bus boundary number argument polls endpoint w
    | run => run

theorem dispatch_transfer (bridge : Bridge ι ρ) (bus : RegisterBus ω ε) (boundary : Boundary ω)
    (argument : UInt64) (waiter : ι) (cancelled : Bool) (endpoint : Endpoint ρ) (w : ω) :
    dispatch bridge bus boundary Command.transfer.number argument waiter cancelled endpoint w
      = ((transfer bus boundary argument endpoint.staging w).map fun _ => .done).mapWorld
          fun p => (⟨p.1, endpoint.readiness⟩, p.2) := by
  rw [dispatch, Command.ofNumber_number]

theorem dispatch_waitForInterrupt (bridge : Bridge ι ρ) (bus : RegisterBus ω ε)
    (boundary : Boundary ω) (argument : UInt64) (waiter : ι) (cancelled : Bool)
    (endpoint : Endpoint ρ) (w : ω) :
    dispatch bridge bus boundary Command.waitForInterrupt.number argument waiter cancelled endpoint
        w
      = (waitForInterrupt bridge waiter cancelled endpoint.readiness).mapWorld
          fun readiness => (⟨endpoint.staging, readiness⟩, w) := by
  rw [dispatch, Command.ofNumber_number]

end Endpoint

end SensorLink

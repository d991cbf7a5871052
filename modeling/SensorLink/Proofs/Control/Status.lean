/-
What a status number promises.

A caller that speaks in status numbers sees no more of a command than zero or the number of
its error.  Invalid arguments (-22) and interrupted waits (-4) promise that nothing has
happened yet, so that the caller may mend its argument, or simply try again.  A failed
transfer (-14) does not.

* `status_execute`, `transfer_cases` — where the errors of a transfer come from;
* `complete_unknown`, `complete_transfer`, `complete_wait` — the three kinds of commands, each
  polled to its end;
* `Endpoint.events`, `complete_traced` — the calls that a command makes;
* `unchanged_of_status`, `wait_of_status` — what the two numbers promise;
* `transfer_ignores`, `wait_done_iff` — what a transfer and a wait leave alone in any case;
* `status_guarantees` — what follows from the status, for every command.

Commands are polled while no interrupt comes in.  Whether a wait is cancelled is asked anew
at every poll.
-/
import SensorLink.Bench.Recorder
import SensorLink.Proofs.Control.CallerMemory
import SensorLink.Proofs.Operations

namespace SensorLink

variable {ω β μ ε ι ρ : Type}

/-! ### The errors of a transfer -/

theorem RequestError.status_neg (e : RequestError ε) : e.status < 0 := by
  cases e with
  | unknownCommand number => exact Int.negSucc_lt_zero 21
  | record cause => exact Int.negSucc_lt_zero 21
  | buffer cause => exact Int.negSucc_lt_zero 13
  | access cause => exact Int.negSucc_lt_zero 13
  | interrupted => exact Int.negSucc_lt_zero 3

theorem commandStatus_eq_zero_iff (outcome : Outcome (RequestError ε) Completion) :
    commandStatus outcome = some 0 ↔ outcome = .ok .done := by
  rcases outcome with (_ | _) | e | t
  · exact ⟨fun _ => rfl, fun _ => rfl⟩
  · constructor
    · intro h
      cases h
    · intro h
      cases h
  · constructor
    · intro h
      have hstatus : e.status = 0 := Option.some.inj h
      have hneg := e.status_neg
      omega
    · intro h
      cases h
  · constructor
    · intro h
      cases h
    · intro h
      cases h

namespace Endpoint

theorem status_wholeTransfer {base : Nat} {outcome : Outcome (AccessError ε) Unit}
    {e : RequestError ε} (h : wholeTransfer base outcome = .error e) : e.status = -14 := by
  rcases outcome with _ | cause | t
  · cases h
  · rw [wholeTransfer] at h
    cases hreport : cause.offsetBy base with
    | some report =>
      rw [hreport] at h
      cases h
      rfl
    | none =>
      rw [hreport] at h
      cases h
  · cases h

theorem status_moveBlock (bus : RegisterBus ω ε) (boundary : Boundary ω) {direction : Direction}
    {register : UInt16} {address : UInt64} {block : Span} {staging : Staging} {w : ω}
    {e : RequestError ε}
    (h : (moveBlock bus boundary direction register address block staging w).outcome = .error e) :
    e.status = -14 := by
  rcases Nat.lt_or_ge stagingSize block.length with hlt | hle
  · rw [moveBlock_of_lt hlt] at h
    cases h
  rcases direction with _ | _
  · rw [moveBlock_read hle] at h
    simp only [fetchBlock] at h
    rcases hread : bus.read register (staging.front block.length) w with ⟨outcome, bytes, v⟩
    rw [hread] at h
    rcases outcome with _ | cause | t
    · simp only at h
      rcases hcopy : boundary.copyOut address ((staging.put bytes).front block.length) v with
        ⟨cause | _, u⟩
      · rw [hcopy] at h
        cases h
        rfl
      · rw [hcopy] at h
        cases h
    · have hmoved : wholeTransfer block.offset (.error cause) = .error e := h
      exact status_wholeTransfer hmoved
    · cases h
  · rw [moveBlock_write hle] at h
    rcases hcopy : boundary.copyIn address block.length w with ⟨cause | bytes, v⟩
    · rw [sendBlock_of_error hle hcopy] at h
      cases h
      rfl
    · rw [sendBlock_of_ok hle hcopy rfl] at h
      exact status_wholeTransfer h

theorem status_moveBlocks (bus : RegisterBus ω ε) (boundary : Boundary ω) {request : Request}
    {blocks : List Span} {staging : Staging} {w : ω} {e : RequestError ε}
    (h : (moveBlocks bus boundary request blocks staging w).outcome = .error e) :
    e.status = -14 := by
  induction blocks generalizing staging w with
  | nil => cases h
  | cons block blocks ih =>
    rcases moveBlocks_cons_cases bus boundary request block blocks staging w with
      ⟨_, hrun⟩ | ⟨_, hrun⟩ | ⟨register, address, _, _, hrun⟩
    · rw [hrun] at h
      cases h
    · rw [hrun] at h
      cases h
      rfl
    · rw [hrun] at h
      rcases Run.andThen_eq_error h with hblock | ⟨_, p, _, hrest⟩
      · exact status_moveBlock bus boundary hblock
      · exact ih hrest

/-- Whatever makes a request fail, its status is that of a failed transfer. -/
theorem status_execute (bus : RegisterBus ω ε) (boundary : Boundary ω) {request : Request}
    {staging : Staging} {w : ω} {e : RequestError ε}
    (h : (execute bus boundary request staging w).outcome = .error e) : e.status = -14 := by
  rcases Nat.lt_or_ge (bus.addressLimit w) (request.register.toNat + request.length.toNat)
    with hlt | hspan
  · rw [execute_of_lt bus boundary staging hlt] at h
    cases h
    rfl
  by_cases hempty : request.length.toNat = 0
  · rw [execute_of_zero bus boundary staging hspan hempty] at h
    cases h
  rcases hcheck : boundary.check request.buffer request.length.toNat w with ⟨cause | _, v⟩
  · rw [execute_of_check_error bus boundary staging hspan hempty hcheck] at h
    cases h
    rfl
  · rw [execute_of_check bus boundary staging hspan hempty hcheck] at h
    exact status_moveBlocks bus boundary h

/-- A transfer cannot fetch its record, or carries out what the record says. -/
theorem transfer_cases (bus : RegisterBus ω ε) (boundary : Boundary ω) (argument : UInt64)
    (staging : Staging) (w : ω) :
    (∃ e v, boundary.copyIn argument Request.recordLength w = (.error e, v) ∧
        transfer bus boundary argument staging w = ⟨.error (.record e), (staging, v)⟩) ∨
      ∃ record v, boundary.copyIn argument Request.recordLength w = (.ok record, v) ∧
        transfer bus boundary argument staging w
          = execute bus boundary (Request.decode record) staging v := by
  rcases hcopy : boundary.copyIn argument Request.recordLength w with ⟨e | record, v⟩
  · exact .inl ⟨e, v, rfl, by simp only [transfer, hcopy]⟩
  · exact .inr ⟨record, v, rfl, by simp only [transfer, hcopy]⟩

/-! ### Commands that are polled to their end -/

section Complete

variable (bridge : Bridge ι ρ) (bus : RegisterBus ω ε) (boundary : Boundary ω) (argument : UInt64)

theorem complete_unknown {number : UInt32} (htransfer : number ≠ Command.transfer.number)
    (hwait : number ≠ Command.waitForInterrupt.number) (poll : ι × Bool)
    (polls : List (ι × Bool)) (endpoint : Endpoint ρ) (w : ω) :
    complete bridge bus boundary number argument (poll :: polls) endpoint w
      = ⟨.error (.unknownCommand number), (endpoint, w)⟩ := by
  have hrefused : Command.ofNumber number = .error number := by
    rw [Command.ofNumber, if_neg htransfer, if_neg hwait]
  simp only [complete, dispatch, hrefused]

/-- A transfer comes to its end at the first poll. -/
theorem complete_transfer (poll : ι × Bool) (polls : List (ι × Bool)) (endpoint : Endpoint ρ)
    (w : ω) :
    complete bridge bus boundary Command.transfer.number argument (poll :: polls) endpoint w
      = ((transfer bus boundary argument endpoint.staging w).map fun _ => .done).mapWorld
          fun p => (⟨p.1, endpoint.readiness⟩, p.2) := by
  simp only [complete, dispatch_transfer]
  rcases transfer bus boundary argument endpoint.staging w with ⟨_ | e | t, staging, v⟩
  · rfl
  · rfl
  · rfl

/-- A wait has nothing to do with the bus and the boundary. -/
theorem complete_wait (polls : List (ι × Bool)) (endpoint : Endpoint ρ) (w : ω) :
    ∃ outcome readiness,
      complete bridge bus boundary Command.waitForInterrupt.number argument polls endpoint w
          = ⟨outcome, (⟨endpoint.staging, readiness⟩, w)⟩ := by
  induction polls generalizing endpoint with
  | nil => exact ⟨_, endpoint.readiness, rfl⟩
  | cons poll polls ih =>
    obtain ⟨waiter, cancelled⟩ := poll
    simp only [complete, dispatch_waitForInterrupt, waitForInterrupt]
    rcases bridge.pollOr .gate waiter (endpoint.readiness, cancelled) with
      ⟨_ | _ | _, woken, readiness, _⟩
    · exact ⟨_, readiness, rfl⟩
    · exact ⟨_, readiness, rfl⟩
    · exact ih ⟨endpoint.staging, readiness⟩

/-- A wait takes the flag at the first poll, or finds it clear at every poll. -/
theorem wait_ends (hbridge : bridge.Lawful) (polls : List (ι × Bool)) (endpoint : Endpoint ρ)
    (w : ω) :
    let run :=
      complete bridge bus boundary Command.waitForInterrupt.number argument polls endpoint w
    run.outcome = .ok .pending ∨
      bridge.isReady run.world.1.readiness = false ∧
        (run.outcome = .ok .done ∧ bridge.isReady endpoint.readiness = true ∨
          run.outcome = .error .interrupted ∧ bridge.isReady endpoint.readiness = false) := by
  intro run
  induction polls generalizing endpoint with
  | nil => exact .inl rfl
  | cons poll polls ih =>
    obtain ⟨waiter, cancelled⟩ := poll
    have hclear := hbridge.isReady_pollOr .gate waiter cancelled endpoint.readiness
    have hresult := hbridge.result_pollOr_gate waiter endpoint.readiness cancelled
    obtain ⟨⟨result, woken, readiness, _⟩, hpoll⟩ : ∃ polled,
      bridge.pollOr .gate waiter (endpoint.readiness, cancelled) = polled := ⟨_, rfl⟩
    rw [hpoll] at hclear hresult
    simp only at hclear hresult
    simp only [run, complete, dispatch_waitForInterrupt, waitForInterrupt, hpoll, hresult]
    cases hflag : bridge.isReady endpoint.readiness with
    | true => exact .inr ⟨hclear, .inl ⟨rfl, rfl⟩⟩
    | false =>
      cases cancelled with
      | true => exact .inr ⟨hclear, .inr ⟨rfl, rfl⟩⟩
      -- The flag is still clear when the wait goes on.
      | false =>
        refine (ih ⟨endpoint.staging, readiness⟩).imp_right (And.imp_right ?_)
        rintro (⟨_, hset⟩ | ⟨houtcome, _⟩)
        · cases hclear.symm.trans hset
        · exact .inr ⟨houtcome, rfl⟩

/-- The calls on the bus and at the boundary that a command makes, in order. -/
def events (number : UInt32) (argument : UInt64) (polls : List (ι × Bool)) (endpoint : Endpoint ρ)
    (w : ω) : List (Event ε) :=
  (complete bridge bus.traced (boundary.traced ε) number argument polls endpoint (w, [])).world.2.2

theorem events_wait (polls : List (ι × Bool)) (endpoint : Endpoint ρ) (w : ω) :
    events bridge bus boundary Command.waitForInterrupt.number argument polls endpoint w = [] := by
  obtain ⟨outcome, readiness, htraced⟩ := complete_wait bridge bus.traced (boundary.traced ε)
    argument polls endpoint (w, [])
  simp only [events, htraced]

theorem events_unknown {number : UInt32} (htransfer : number ≠ Command.transfer.number)
    (hwait : number ≠ Command.waitForInterrupt.number) (poll : ι × Bool)
    (polls : List (ι × Bool)) (endpoint : Endpoint ρ) (w : ω) :
    events bridge bus boundary number argument (poll :: polls) endpoint w = [] := by
  simp only [events, complete_unknown _ _ _ argument htransfer hwait poll polls]

/-- The recorder changes nothing about a command. -/
theorem complete_traced (number : UInt32) (polls : List (ι × Bool)) (endpoint : Endpoint ρ) (w : ω)
    (log : List (Event ε)) :
    let traced :=
      complete bridge bus.traced (boundary.traced ε) number argument polls endpoint (w, log)
    let plain := complete bridge bus boundary number argument polls endpoint w
    traced.outcome = plain.outcome ∧ traced.world.1 = plain.world.1 ∧
      traced.world.2.1 = plain.world.2 := by
  intro traced plain
  induction polls generalizing endpoint w log with
  | nil => exact ⟨rfl, rfl, rfl⟩
  | cons poll polls ih =>
    obtain ⟨waiter, cancelled⟩ := poll
    obtain ⟨outcome, ⟨next, v⟩, ⟨next', v', log'⟩, hrun, hrun', halike, hv⟩ :=
      couple_dispatch bridge piecewise_eq bus.sim_traced bus.sim_traced.fills
        (boundary.sim_traced ε) number argument waiter cancelled (.refl piecewise_eq endpoint)
        (show Recorded w (w, log) from rfl)
    obtain rfl : v' = v := hv
    obtain rfl : next' = next := halike.eq
    rw [outcome.mapError_eq_self RequestError.map_id] at hrun'
    simp only [traced, plain, complete, hrun, hrun']
    rcases outcome with (_ | _) | e | t
    · exact ⟨rfl, rfl, rfl⟩
    · exact ih next' v' log'
    · exact ⟨rfl, rfl, rfl⟩
    · exact ⟨rfl, rfl, rfl⟩

end Complete

/-! ### What the status tells -/

section Guarantees

variable {bus : RegisterBus β ε} {boundary : Boundary μ} {memory : μ → Contents}
  {Grants : μ → UInt64 → Nat → Prop}

/-- A transfer whose status is that of an invalid argument could not fetch its record, and
has called nothing but the boundary for it. -/
theorem transfer_invalid (hboundary : boundary.Honors memory Grants) (argument : UInt64)
    (staging : Staging) (b : β) (u : μ) {e : RequestError ε}
    (herror : (transfer (bus.beside μ) (boundary.after β) argument staging (b, u)).outcome
      = .error e) (hstatus : e.status ≠ -14) :
    e.status = -22 ∧ ∃ v call,
      transfer (bus.beside μ) (boundary.after β) argument staging (b, u)
          = ⟨.error e, (staging, (b, v))⟩ ∧
        transfer (bus.beside μ).traced ((boundary.after β).traced ε) argument staging
            ((b, u), []) = ⟨.error e, (staging, ((b, v), [.copyIn argument 16 (some call)]))⟩ ∧
        memory v = memory u ∧ Grants v = Grants u := by
  rcases transfer_cases (bus.beside μ) (boundary.after β) argument staging (b, u) with
    ⟨cause, p, hcopy, hrun⟩ | ⟨record, p, _, hrun⟩
  · rw [hrun] at herror
    cases herror
    obtain ⟨answer, v, hanswer, hmemory, hgrants, _⟩ :=
      hboundary.copyIn argument Request.recordLength u
    have hcopied := Boundary.copyIn_after hanswer b
    obtain ⟨rfl, rfl⟩ := Prod.mk.inj (hcopied.symm.trans hcopy)
    refine ⟨rfl, v, cause, hrun, ?_, hmemory, hgrants⟩
    simp only [transfer, Boundary.copyIn_traced hcopied, failureOf, List.nil_append]
    rfl
  · rw [hrun] at herror
    exact absurd (status_execute _ _ herror) hstatus

/-- Of a transfer with the status of an invalid argument or an interrupted wait: it is the
former, no call on the bus was made, and caller memory is as before. -/
theorem complete_transfer_invalid (bridge : Bridge ι ρ) (bus : RegisterBus β ε)
    (hboundary : boundary.Honors memory Grants) (argument : UInt64) (poll : ι × Bool)
    (polls : List (ι × Bool)) (endpoint : Endpoint ρ) (b : β) (u : μ) :
    let run := complete bridge (bus.beside μ) (boundary.after β) Command.transfer.number argument
      (poll :: polls) endpoint (b, u)
    let log : List (Event ε) := events bridge (bus.beside μ) (boundary.after β)
      Command.transfer.number argument (poll :: polls) endpoint (b, u)
    commandStatus run.outcome = some (-22) ∨ commandStatus run.outcome = some (-4) →
      commandStatus run.outcome = some (-22) ∧ Event.busCalls log = [] ∧ run.world.2.1 = b ∧
        memory run.world.2.2 = memory u := by
  intro run log hstatus
  have hrun := complete_transfer bridge (bus.beside μ) (boundary.after β) argument poll polls
    endpoint (b, u)
  have hlog := complete_transfer bridge (bus.beside μ).traced ((boundary.after β).traced ε)
    argument poll polls endpoint ((b, u), [])
  simp only [run, log, events, hrun, hlog] at hstatus ⊢
  rcases houtcome : (transfer (bus.beside μ) (boundary.after β) argument endpoint.staging
    (b, u)).outcome with _ | e | t
  · simp only [Run.outcome_mapWorld, Run.outcome_map, houtcome, Outcome.map_ok, commandStatus,
      Option.some.injEq] at hstatus
    omega
  · have hcommand : commandStatus ((transfer (bus.beside μ) (boundary.after β) argument
        endpoint.staging (b, u)).outcome.map fun _ => Completion.done) = some e.status := by
      rw [houtcome]
      rfl
    simp only [Run.outcome_mapWorld, Run.outcome_map, hcommand, Option.some.injEq] at hstatus ⊢
    have hne : e.status ≠ -14 := by omega
    obtain ⟨hinvalid, v, call, hplain, htraced, hmemory, _⟩ :=
      transfer_invalid hboundary argument endpoint.staging b u houtcome hne
    rw [hplain, htraced]
    exact ⟨hinvalid, rfl, rfl, hmemory⟩
  · simp only [Run.outcome_mapWorld, Run.outcome_map, houtcome, Outcome.map_trap, commandStatus]
      at hstatus
    rcases hstatus with h | h
    · cases h
    · cases h

section Settled

variable (bridge : Bridge ι ρ) (bus : RegisterBus β ε) (argument : UInt64) {number : UInt32}
  {polls : List (ι × Bool)} {endpoint : Endpoint ρ} {b : β} {u : μ}

/-- After an invalid argument and after an interrupted wait, everything is as before. -/
theorem unchanged_of_status (hbridge : bridge.Lawful) (hboundary : boundary.Honors memory Grants) :
    let run := complete bridge (bus.beside μ) (boundary.after β) number argument polls endpoint
      (b, u)
    let log : List (Event ε) := events bridge (bus.beside μ) (boundary.after β) number argument
      polls endpoint (b, u)
    let status := commandStatus run.outcome
    run.outcome ≠ .ok .pending → status = some (-22) ∨ status = some (-4) →
      Event.busCalls log = [] ∧ run.world.2.1 = b ∧ memory run.world.2.2 = memory u ∧
        bridge.isReady run.world.1.readiness = bridge.isReady endpoint.readiness := by
  intro run log status hsettled hstatus
  rcases polls with _ | ⟨poll, polls⟩
  · exact absurd rfl hsettled
  by_cases htransfer : number = Command.transfer.number
  · subst htransfer
    obtain ⟨_, hcalls, hbus, hmemory⟩ :=
      complete_transfer_invalid bridge bus hboundary argument poll polls endpoint b u hstatus
    have hreadiness : run.world.1.readiness = endpoint.readiness := by
      simp only [run, complete_transfer, Run.world_mapWorld]
    exact ⟨hcalls, hbus, hmemory, congrArg bridge.isReady hreadiness⟩
  by_cases hwait : number = Command.waitForInterrupt.number
  · subst hwait
    have hends := (wait_ends _ _ _ argument hbridge _ _ _).resolve_left hsettled
    obtain ⟨outcome, readiness, hrun⟩ := complete_wait bridge (bus.beside μ) (boundary.after β)
      argument (poll :: polls) endpoint (b, u)
    simp only [status, run, log, hrun, events_wait] at hstatus hends ⊢
    rcases hends with ⟨hclear, ⟨rfl, _⟩ | ⟨rfl, hflag⟩⟩
    -- The status of a wait that is done is zero.
    · simp only [commandStatus, Option.some.injEq] at hstatus
      omega
    · exact ⟨rfl, trivial, trivial, hclear.trans hflag.symm⟩
  · have hrun : run = ⟨.error (.unknownCommand number), (endpoint, (b, u))⟩ :=
      complete_unknown _ _ _ argument htransfer hwait poll polls endpoint (b, u)
    simp only [hrun, log, events_unknown _ _ _ argument htransfer hwait]
    exact ⟨rfl, trivial, trivial, trivial⟩

/-- Only a wait that finds the flag clear is interrupted. -/
theorem wait_of_status (hbridge : bridge.Lawful) (hboundary : boundary.Honors memory Grants) :
    let run := complete bridge (bus.beside μ) (boundary.after β) number argument polls endpoint
      (b, u)
    run.outcome ≠ .ok .pending → commandStatus run.outcome = some (-4) →
      number = Command.waitForInterrupt.number ∧ bridge.isReady endpoint.readiness = false := by
  intro run hsettled hstatus
  rcases polls with _ | ⟨poll, polls⟩
  · exact absurd rfl hsettled
  by_cases htransfer : number = Command.transfer.number
  · subst htransfer
    have hinvalid :=
      complete_transfer_invalid bridge bus hboundary argument poll polls endpoint b u (.inr hstatus)
    cases hinvalid.1.symm.trans hstatus
  by_cases hwait : number = Command.waitForInterrupt.number
  · subst hwait
    rcases (wait_ends _ _ _ argument hbridge _ _ _).resolve_left hsettled with
      ⟨_, ⟨hdone, _⟩ | ⟨_, hflag⟩⟩
    · rw [hdone] at hstatus
      cases hstatus
    · exact ⟨rfl, hflag⟩
  · simp only [run, complete_unknown _ _ _ argument htransfer hwait] at hstatus
    cases hstatus

/-- A wait calls nothing, and is done if and only if it has taken the flag. -/
theorem wait_done_iff (hbridge : bridge.Lawful) (boundary : Boundary μ) :
    let run := complete bridge (bus.beside μ) (boundary.after β) Command.waitForInterrupt.number
      argument polls endpoint (b, u)
    run.outcome ≠ .ok .pending →
      run.world.2 = (b, u) ∧
        (commandStatus run.outcome = some 0 ↔
          bridge.isReady endpoint.readiness = true ∧
            bridge.isReady run.world.1.readiness = false) := by
  intro run hsettled
  have hends := (wait_ends _ _ _ argument hbridge _ _ _).resolve_left hsettled
  obtain ⟨outcome, readiness, hrun⟩ := complete_wait bridge (bus.beside μ) (boundary.after β)
    argument polls endpoint (b, u)
  simp only [run, hrun] at hends ⊢
  refine ⟨trivial, ?_⟩
  rcases hends with ⟨hclear, ⟨rfl, hflag⟩ | ⟨rfl, hflag⟩⟩
  · exact ⟨fun _ => ⟨hflag, hclear⟩, fun _ => rfl⟩
  · constructor
    · intro h
      cases h
    · rintro ⟨hset, _⟩
      cases hflag.symm.trans hset

/-- A transfer leaves the flag alone, and neither the flag nor any poll makes a difference to
it. -/
theorem transfer_ignores (boundary : Boundary μ) (hpolls : polls ≠ []) :
    let runOf := complete bridge (bus.beside μ) (boundary.after β) Command.transfer.number argument
    let logOf : List (ι × Bool) → Endpoint ρ → β × μ → List (Event ε) :=
      events bridge (bus.beside μ) (boundary.after β) Command.transfer.number argument
    let run := runOf polls endpoint (b, u)
    run.world.1.readiness = endpoint.readiness ∧
      ∀ polls' readiness', polls' ≠ [] →
        let other := runOf polls' ⟨endpoint.staging, readiness'⟩ (b, u)
        other.outcome = run.outcome ∧ other.world.1.staging = run.world.1.staging ∧
          other.world.2 = run.world.2 ∧
          logOf polls' ⟨endpoint.staging, readiness'⟩ (b, u) = logOf polls endpoint (b, u) := by
  intro runOf logOf run
  obtain ⟨poll, rest, rfl⟩ := List.exists_cons_of_ne_nil hpolls
  refine ⟨?_, ?_⟩
  · simp only [run, runOf, complete_transfer, Run.world_mapWorld]
  · intro polls' readiness' hpolls'
    obtain ⟨poll', rest', rfl⟩ := List.exists_cons_of_ne_nil hpolls'
    simp only [run, runOf, logOf, events, complete_transfer, Run.outcome_mapWorld,
      Run.world_mapWorld, Run.world_map, and_self]

end Settled

/-- The status of a command that was polled to its end, and what follows from it: which
commands have done nothing, and what each kind of command leaves alone in any case.  The calls
are those of a run with a recorder, which does what the run does. -/
theorem status_guarantees (bridge : Bridge ι ρ) (hbridge : bridge.Lawful) (bus : RegisterBus β ε)
    (hboundary : boundary.Honors memory Grants) (number : UInt32) (argument : UInt64)
    (polls : List (ι × Bool)) (endpoint : Endpoint ρ) (b : β) (u : μ) :
    let runOf := complete bridge (bus.beside μ) (boundary.after β) number argument
    let recorded := complete bridge (bus.beside μ).traced ((boundary.after β).traced ε) number
      argument polls endpoint ((b, u), [])
    let logOf : List (ι × Bool) → Endpoint ρ → β × μ → List (Event ε) :=
      events bridge (bus.beside μ) (boundary.after β) number argument
    let run := runOf polls endpoint (b, u)
    let log := logOf polls endpoint (b, u)
    let status := commandStatus run.outcome
    (recorded.world.2.2 = log ∧ recorded.outcome = run.outcome ∧
      recorded.world.1 = run.world.1 ∧ recorded.world.2.1 = run.world.2) ∧
    (run.outcome ≠ .ok .pending →
      (status = some 0 ↔ run.outcome = .ok .done) ∧
        (status = some (-22) ∨ status = some (-4) →
          Event.busCalls log = [] ∧ run.world.2.1 = b ∧ memory run.world.2.2 = memory u ∧
            bridge.isReady run.world.1.readiness = bridge.isReady endpoint.readiness) ∧
        (status = some (-4) →
          number = Command.waitForInterrupt.number ∧ bridge.isReady endpoint.readiness = false) ∧
        (number ≠ Command.transfer.number → number ≠ Command.waitForInterrupt.number →
          run = ⟨.error (.unknownCommand number), (endpoint, (b, u))⟩ ∧ log = []) ∧
        (number = Command.transfer.number →
          run.world.1.readiness = endpoint.readiness ∧
            ∀ polls' readiness', polls' ≠ [] →
              let other := runOf polls' ⟨endpoint.staging, readiness'⟩ (b, u)
              other.outcome = run.outcome ∧ other.world.1.staging = run.world.1.staging ∧
                other.world.2 = run.world.2 ∧
                logOf polls' ⟨endpoint.staging, readiness'⟩ (b, u) = log) ∧
        (number = Command.waitForInterrupt.number →
          log = [] ∧ run.world.2 = (b, u) ∧
            (status = some 0 ↔
              bridge.isReady endpoint.readiness = true ∧
                bridge.isReady run.world.1.readiness = false))) := by
  intro runOf recorded logOf run log status
  refine ⟨⟨rfl, complete_traced bridge (bus.beside μ) (boundary.after β) argument number polls
    endpoint (b, u) []⟩, fun hsettled => ?_⟩
  have hpolls : polls ≠ [] := by
    rintro rfl
    exact hsettled rfl
  refine ⟨commandStatus_eq_zero_iff run.outcome,
    unchanged_of_status bridge bus argument hbridge hboundary hsettled,
    wait_of_status bridge bus argument hbridge hboundary hsettled, ?_, ?_, ?_⟩
  · intro htransfer hwait
    obtain ⟨poll, rest, rfl⟩ := List.exists_cons_of_ne_nil hpolls
    exact ⟨complete_unknown _ _ _ argument htransfer hwait poll rest endpoint (b, u),
      events_unknown _ _ _ argument htransfer hwait poll rest endpoint (b, u)⟩
  · rintro rfl
    exact transfer_ignores bridge bus argument boundary hpolls
  · rintro rfl
    exact ⟨events_wait _ _ _ argument polls endpoint (b, u),
      wait_done_iff bridge bus argument hbridge boundary hsettled⟩

end Guarantees

open Bench in
/-- A wait that is cancelled at its second poll, on a bus whose first call would fail. -/
theorem status_guarantees_cancelled :
    let recorder : Recorder := { limit := 16, registers := .zero, failOn := some 0 }
    let window : Window := ⟨0x1000, Array.replicate 64 7⟩
    let run := complete Readiness.bridge (Recorder.registerBus.beside Window)
      (Window.boundary.after Recorder) Command.waitForInterrupt.number 0x1000
      [(1, false), (1, true)] ⟨Scratch.zero _, .idle⟩ (recorder, window)
    commandStatus run.outcome = some (-4) ∧ run.world.2.1 = recorder ∧
      run.world.2.2.contents = window.contents ∧
      Readiness.bridge.isReady run.world.1.readiness = false := by
  intro recorder window run
  have hsettled : run.outcome ≠ .ok .pending := by decide +kernel
  have hstatus : commandStatus run.outcome = some (-4) := by decide +kernel
  obtain ⟨_, hguarantees⟩ := status_guarantees Readiness.bridge Readiness.bridge_lawful
    Recorder.registerBus Window.honors_boundary Command.waitForInterrupt.number 0x1000
    [(1, false), (1, true)] ⟨Scratch.zero _, .idle⟩ recorder window
  obtain ⟨_, hnothing, _⟩ := hguarantees hsettled
  obtain ⟨_, hbus, hmemory, hready⟩ := hnothing (.inr hstatus)
  exact ⟨hstatus, hbus, hmemory, hready⟩

end Endpoint

end SensorLink

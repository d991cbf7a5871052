/-
What succeeds over two buses gives the same.

Two buses may differ in how they carry a chunk, in what they do when one is lost, and in
which of them they lose.  But if both serve registers that hold the same, then whatever is
done over both of them and succeeds over both gives the same and leaves the same.

* `Run.Agree` — two runs that give the same if both give a value;
* `RegisterBus.Agrees` — two buses whose accesses do;
* `Serves.agrees` — such are all buses that serve registers with the same contents;
* `agree_dispatch`, `agree_execute` — commands and requests over them;
* `Operation.agree`, `Job.agree` — every operation, and every job.
-/
import SensorLink.Proofs.Jobs

namespace SensorLink

variable {ω ω' ε ε' α β μ ι ρ : Type} {R : ω → ω' → Prop}

/-- If both runs give a value, they give the same one, in related worlds. -/
def Run.Agree (R : ω → ω' → Prop) (run : Run ω ε α) (run' : Run ω' ε' α) : Prop :=
  ∀ a a', run.outcome = .ok a → run'.outcome = .ok a' → a = a' ∧ R run.world run'.world

namespace Run.Agree

variable {run : Run ω ε α} {run' : Run ω' ε' α}

theorem of_error (e : ε) (w : ω) (run' : Run ω' ε' α) : Run.Agree R ⟨.error e, w⟩ run' :=
  fun _ _ h => absurd h Outcome.error_ne_ok

theorem andThen (h : Run.Agree R run run') {next : α → ω → Run ω ε β}
    {next' : α → ω' → Run ω' ε' β} {S : ω → ω' → Prop}
    (hnext : ∀ a w w', R w w' → Run.Agree S (next a w) (next' a w')) :
    Run.Agree S (run.andThen next) (run'.andThen next') := by
  intro b b' hb hb'
  -- Both parts of both runs gave a value.
  obtain ⟨a, w, rfl, hb⟩ := Run.andThen_eq_ok hb
  obtain ⟨a', w', rfl, hb'⟩ := Run.andThen_eq_ok hb'
  obtain ⟨rfl, hR⟩ := h a a' rfl rfl
  exact hnext a w w' hR b b' hb hb'

theorem map (h : Run.Agree R run run') (g : α → β) : Run.Agree R (run.map g) (run'.map g) := by
  obtain ⟨outcome, w⟩ := run
  obtain ⟨outcome', w'⟩ := run'
  intro b b' hb hb'
  cases outcome with
  | ok a =>
    cases outcome' with
    | ok a' =>
      obtain ⟨rfl, hR⟩ := h a a' rfl rfl
      cases hb
      cases hb'
      exact ⟨rfl, hR⟩
    | error => cases hb'
    | trap => cases hb'
  | error => cases hb
  | trap => cases hb

theorem mapWorld {σ σ' : Type} {S : σ → σ' → Prop} (h : Run.Agree R run run') {g : ω → σ}
    {g' : ω' → σ'} (hg : ∀ w w', R w w' → S (g w) (g' w')) :
    Run.Agree S (run.mapWorld g) (run'.mapWorld g') := by
  intro a a' ha ha'
  obtain ⟨heq, hR⟩ := h a a' ha ha'
  exact ⟨heq, hg _ _ hR⟩

end Run.Agree

/-! ### Accesses -/

/-- The accesses over the two buses agree; a read need not be handed the same bytes. -/
structure RegisterBus.Agrees (bus : RegisterBus ω ε) (bus' : RegisterBus ω' ε')
    (R : ω → ω' → Prop) : Prop where
  read : ∀ register buffer buffer' w w', buffer.length = buffer'.length → R w w' →
    Run.Agree (Beside R) (bus.read register buffer w) (bus'.read register buffer' w')
  write : ∀ register data w w', R w w' →
    Run.Agree R (bus.write register data w) (bus'.write register data w')

/-- Both worlds are within the register space, and their registers hold the same. -/
structure SameRegisters (bus : RegisterBus ω ε) (bus' : RegisterBus ω' ε')
    (contents : ω → Contents) (contents' : ω' → Contents) (w : ω) (w' : ω') : Prop where
  contents_eq : contents w = contents' w'
  space : bus.addressLimit w ≤ registerSpace
  space' : bus'.addressLimit w' ≤ registerSpace

namespace RegisterBus

section Serving

variable {bus : RegisterBus ω ε} {contents : ω → Contents} {Failed : ω → Prop} {w v : ω}
  {register : UInt16}

/-- A read that succeeds has brought the registers. -/
theorem Serves.read_of_ok (h : bus.Serves contents Failed) {buffer filled : Bytes}
    (hspace : bus.addressLimit w ≤ registerSpace)
    (hrun : bus.read register buffer w = ⟨.ok (), (filled, v)⟩) :
    bus.Keeps Failed w v ∧ contents v = contents w ∧
      filled = (contents w).read register.toNat buffer.length := by
  obtain ⟨hchunk, hlimit, _⟩ := bus.read_ok hrun
  obtain ⟨outcome, filled', v', calls, reached, htraced, _, hkeeps, _, hsame, hfilled⟩ :=
    h.read_traced register buffer w [] hchunk hspace hlimit
  have hplain := bus.read_traced register buffer w []
  rw [htraced, hrun] at hplain
  simp only at hplain
  obtain ⟨rfl, rfl, rfl⟩ := hplain
  exact ⟨hkeeps, hsame, hfilled rfl⟩

/-- A write that succeeds has overwritten the registers. -/
theorem Serves.write_of_ok (h : bus.Serves contents Failed) {data : Bytes}
    (hspace : bus.addressLimit w ≤ registerSpace)
    (hrun : bus.write register data w = ⟨.ok (), v⟩) :
    bus.Keeps Failed w v ∧ contents v = (contents w).patch register.toNat data := by
  obtain ⟨hchunk, hlimit, _⟩ := bus.write_ok hrun
  obtain ⟨outcome, v', calls, reached, htraced, haccess, hkeeps, _, hpatch⟩ :=
    h.write_traced register data w [] hchunk hspace hlimit
  have hplain := bus.write_traced register data w []
  rw [htraced, hrun] at hplain
  simp only at hplain
  obtain ⟨rfl, rfl⟩ := hplain
  cases haccess with
  | finished =>
    rw [List.take_length] at hpatch
    exact ⟨hkeeps, hpatch⟩

end Serving

/-- Buses that serve registers agree, whatever else they do. -/
theorem Serves.agrees {bus : RegisterBus ω ε} {bus' : RegisterBus ω' ε'}
    {contents : ω → Contents} {contents' : ω' → Contents} {Failed : ω → Prop}
    {Failed' : ω' → Prop} (h : bus.Serves contents Failed) (h' : bus'.Serves contents' Failed') :
    bus.Agrees bus' (SameRegisters bus bus' contents contents') where
  read := by
    intro register buffer buffer' w w' hlength ⟨hsame, hspace, hspace'⟩
    obtain ⟨⟨outcome, filled, v⟩, hrun⟩ : ∃ run, bus.read register buffer w = run := ⟨_, rfl⟩
    obtain ⟨⟨outcome', filled', v'⟩, hrun'⟩ : ∃ run, bus'.read register buffer' w' = run :=
      ⟨_, rfl⟩
    rw [hrun, hrun']
    rintro _ _ rfl rfl
    obtain ⟨hkeeps, hkept, hfilled⟩ := h.read_of_ok hspace hrun
    obtain ⟨hkeeps', hkept', hfilled'⟩ := h'.read_of_ok hspace' hrun'
    rw [hsame, hlength, ← hfilled'] at hfilled
    subst hfilled
    exact ⟨rfl, .intro _ ⟨hkept.trans (hsame.trans hkept'.symm),
      hkeeps.addressLimit ▸ hspace, hkeeps'.addressLimit ▸ hspace'⟩⟩
  write := by
    intro register data w w' ⟨hsame, hspace, hspace'⟩
    obtain ⟨⟨outcome, v⟩, hrun⟩ : ∃ run, bus.write register data w = run := ⟨_, rfl⟩
    obtain ⟨⟨outcome', v'⟩, hrun'⟩ : ∃ run, bus'.write register data w' = run := ⟨_, rfl⟩
    rw [hrun, hrun']
    rintro _ _ rfl rfl
    obtain ⟨hkeeps, hpatch⟩ := h.write_of_ok hspace hrun
    obtain ⟨hkeeps', hpatch'⟩ := h'.write_of_ok hspace' hrun'
    rw [hsame, ← hpatch'] at hpatch
    exact ⟨rfl, hpatch, hkeeps.addressLimit ▸ hspace, hkeeps'.addressLimit ▸ hspace'⟩

namespace Agrees

variable {bus : RegisterBus ω ε} {bus' : RegisterBus ω' ε'} {w : ω} {w' : ω'}

/-- Accesses agree with the same thing beside either bus. -/
theorem beside (h : bus.Agrees bus' R) (σ : Type) :
    (bus.beside σ).Agrees (bus'.beside σ) fun p p' => R p.1 p'.1 ∧ p.2 = p'.2 where
  read := by
    rintro register buffer buffer' ⟨w, s⟩ ⟨w', _⟩ hlength ⟨hR, rfl⟩
    rw [read_beside, read_beside]
    refine (h.read register buffer buffer' w w' hlength hR).mapWorld ?_
    rintro _ _ ⟨filled, hv⟩
    exact .intro filled ⟨hv, rfl⟩
  write := by
    rintro register data ⟨w, s⟩ ⟨w', _⟩ ⟨hR, rfl⟩
    rw [write_beside, write_beside]
    exact (h.write register data w w' hR).mapWorld fun _ _ hv => ⟨hv, rfl⟩

theorem readByte (h : bus.Agrees bus' R) (register : UInt16) (hR : R w w') :
    Run.Agree R (bus.readByte register w) (bus'.readByte register w') := by
  have hread := h.read register [0] [0] w w' rfl hR
  obtain ⟨⟨outcome, filled, v⟩, hrun⟩ : ∃ run, bus.read register [0] w = run := ⟨_, rfl⟩
  obtain ⟨⟨outcome', filled', v'⟩, hrun'⟩ : ∃ run, bus'.read register [0] w' = run := ⟨_, rfl⟩
  rw [hrun, hrun'] at hread
  simp only [RegisterBus.readByte, hrun, hrun']
  intro a a' ha ha'
  cases outcome with
  | ok =>
    cases outcome' with
    | ok =>
      obtain ⟨_, ⟨_, hv⟩⟩ := hread () () rfl rfl
      cases ha
      cases ha'
      exact ⟨rfl, hv⟩
    | error => cases ha'
    | trap => cases ha'
  | error => cases ha
  | trap => cases ha

theorem detect (h : bus.Agrees bus' R) (hR : R w w') :
    Run.Agree R (bus.detect w) (bus'.detect w') := by
  refine (h.write pageSelectRegister [0] w w' hR).andThen fun _ _ _ hR => ?_
  refine (h.readByte deviceIdRegister hR).andThen fun deviceId _ _ hR => ?_
  refine (h.readByte revisionIdRegister hR).andThen fun revisionId v v' hR => ?_
  by_cases hexpected : (⟨deviceId, revisionId⟩ : Identity) = Identity.expected
  · rw [if_pos hexpected, if_pos hexpected]
    intro a a' ha ha'
    cases ha
    cases ha'
    exact ⟨rfl, hR⟩
  · rw [if_neg hexpected]
    exact .of_error _ _ _

end Agrees

end RegisterBus

theorem SensorCall.agree_run {bus : RegisterBus ω ε} {bus' : RegisterBus ω' ε'} {w : ω} {w' : ω'}
    (h : bus.Agrees bus' R) (call : SensorCall) (hR : R w w') :
    Run.Agree (Beside R) (call.run bus w) (call.run bus' w') := by
  cases call with
  | readByte register =>
    exact ((h.readByte register hR).map _).mapWorld fun _ _ hR => .intro [] hR
  | writeByte register value =>
    exact ((h.write register [value] w w' hR).map _).mapWorld fun _ _ hR => .intro [] hR
  | read register buffer => exact (h.read register buffer buffer w w' rfl hR).map _
  | write register data =>
    exact ((h.write register data w w' hR).map _).mapWorld fun _ _ hR => .intro [] hR
  | detect => exact ((h.detect hR).map _).mapWorld fun _ _ hR => .intro [] hR

/-! ### Requests -/

namespace Endpoint

variable {bus : RegisterBus ω ε} {bus' : RegisterBus ω' ε'} {boundary : Boundary ω}
  {boundary' : Boundary ω'} {w : ω} {w' : ω'}

/-- A block that succeeds over both buses; what the staging buffers hold does not matter. -/
theorem agree_moveBlock (h : bus.Agrees bus' R) (hboundary : boundary.Sim boundary' R)
    (direction : Direction) (register : UInt16) (address : UInt64) (block : Span)
    (staging staging' : Staging) (hR : R w w') :
    Run.Agree (fun p p' => R p.2 p'.2)
      (moveBlock bus boundary direction register address block staging w)
      (moveBlock bus' boundary' direction register address block staging' w') := by
  rcases Nat.lt_or_ge stagingSize block.length with hlt | hle
  · rw [moveBlock_of_lt hlt, moveBlock_of_lt hlt]
    exact fun _ _ ha => absurd ha Outcome.trap_ne_ok
  cases direction with
  | write =>
    obtain ⟨answer, v, v', hcopy, hcopy', hv⟩ :=
      hboundary.copyIn address block.length w w' hR
    rw [moveBlock_write hle, moveBlock_write hle]
    cases answer with
    | error e =>
      rw [sendBlock_of_error hle hcopy, sendBlock_of_error hle hcopy']
      exact .of_error _ _ _
    | ok bytes =>
      have hwrite := h.write register bytes.toList v v' hv
      rw [sendBlock_of_ok hle hcopy rfl, sendBlock_of_ok hle hcopy' rfl]
      intro a a' ha ha'
      exact ⟨rfl, (hwrite () () (wholeTransfer_eq_ok ha) (wholeTransfer_eq_ok ha')).2⟩
  | read =>
    have hfront : (staging.front block.length).length = (staging'.front block.length).length := by
      rw [Scratch.front, Scratch.front, List.length_take, List.length_take, staging.length_bytes,
        staging'.length_bytes]
    have hread := h.read register _ _ w w' hfront hR
    obtain ⟨⟨outcome, filled, v⟩, hrun⟩ : ∃ run,
      bus.read register (staging.front block.length) w = run := ⟨_, rfl⟩
    obtain ⟨⟨outcome', filled', v'⟩, hrun'⟩ : ∃ run,
      bus'.read register (staging'.front block.length) w' = run := ⟨_, rfl⟩
    have hsize := bus.length_read register (staging.front block.length) w
    rw [hrun, hrun'] at hread
    rw [hrun, Scratch.front, List.length_take, staging.length_bytes] at hsize
    rw [moveBlock_read hle, moveBlock_read hle]
    simp only [fetchBlock, hrun, hrun']
    cases outcome with
    | ok =>
      cases outcome' with
      | ok =>
        obtain ⟨_, ⟨_, hv⟩⟩ := hread () () rfl rfl
        -- Both staging buffers start with what was read.
        have hle : min block.length stagingSize ≤ filled.length := Nat.le_of_eq hsize.symm
        simp only [staging.front_put_of_le hle, staging'.front_put_of_le hle]
        obtain ⟨answer, u, u', hcopy, hcopy', hu⟩ := hboundary.copyOut address
          (filled.take (min block.length stagingSize)) v v' hv
        simp only [hcopy, hcopy']
        cases answer with
        | error e => exact .of_error _ _ _
        | ok => exact fun _ _ _ _ => ⟨rfl, hu⟩
      | error e => exact fun _ _ _ ha' => absurd (wholeTransfer_eq_ok ha') Outcome.error_ne_ok
      | trap t => exact fun _ _ _ ha' => absurd ha' Outcome.trap_ne_ok
    | error e => exact fun _ _ ha _ => absurd (wholeTransfer_eq_ok ha) Outcome.error_ne_ok
    | trap t => exact fun _ _ ha _ => absurd ha Outcome.trap_ne_ok

theorem agree_moveBlocks (h : bus.Agrees bus' R) (hboundary : boundary.Sim boundary' R)
    (request : Request) (blocks : List Span) (staging staging' : Staging) (hR : R w w') :
    Run.Agree (fun p p' => R p.2 p'.2) (moveBlocks bus boundary request blocks staging w)
      (moveBlocks bus' boundary' request blocks staging' w') := by
  induction blocks generalizing staging staging' w w' with
  | nil => exact fun _ _ _ _ => ⟨rfl, hR⟩
  | cons block blocks ih =>
    simp only [moveBlocks]
    cases registerAt request.register block.offset with
    | none => exact fun _ _ ha => absurd ha Outcome.trap_ne_ok
    | some register =>
      cases addressAt request.buffer block.offset with
      | none => exact .of_error _ _ _
      | some address =>
        exact (agree_moveBlock h hboundary request.direction register address block staging
          staging' hR).andThen fun _ p p' hR => ih p.1 p'.1 hR

theorem agree_execute (h : bus.Agrees bus' R) (hboundary : boundary.Sim boundary' R)
    (request : Request) (staging staging' : Staging) (hR : R w w') :
    Run.Agree (fun p p' => R p.2 p'.2) (execute bus boundary request staging w)
      (execute bus' boundary' request staging' w') := by
  rcases Nat.lt_or_ge (bus.addressLimit w) (request.register.toNat + request.length.toNat)
    with hlt | hspan
  · rw [execute_of_lt bus boundary staging hlt]
    exact .of_error _ _ _
  rcases Nat.lt_or_ge (bus'.addressLimit w') (request.register.toNat + request.length.toNat)
    with hlt' | hspan'
  · rw [execute_of_lt bus' boundary' staging' hlt']
    exact fun _ _ _ ha' => absurd ha' Outcome.error_ne_ok
  by_cases hempty : request.length.toNat = 0
  · rw [execute_of_zero bus boundary staging hspan hempty,
      execute_of_zero bus' boundary' staging' hspan' hempty]
    exact fun _ _ _ _ => ⟨rfl, hR⟩
  obtain ⟨answer, v, v', hcheck, hcheck', hv⟩ :=
    hboundary.check request.buffer request.length.toNat w w' hR
  cases answer with
  | error e =>
    rw [execute_of_check_error bus boundary staging hspan hempty hcheck]
    exact .of_error _ _ _
  | ok =>
    rw [execute_of_check bus boundary staging hspan hempty hcheck,
      execute_of_check bus' boundary' staging' hspan' hempty hcheck']
    exact agree_moveBlocks h hboundary request _ staging staging' hv

theorem agree_transfer (h : bus.Agrees bus' R) (hboundary : boundary.Sim boundary' R)
    (address : UInt64) (staging staging' : Staging) (hR : R w w') :
    Run.Agree (fun p p' => R p.2 p'.2) (transfer bus boundary address staging w)
      (transfer bus' boundary' address staging' w') := by
  obtain ⟨answer, v, v', hcopy, hcopy', hv⟩ :=
    hboundary.copyIn address Request.recordLength w w' hR
  simp only [transfer, hcopy, hcopy']
  cases answer with
  | error e => exact .of_error _ _ _
  | ok record =>
    exact agree_execute h hboundary (Request.decode record) staging staging' hv

theorem agree_dispatch (bridge : Bridge ι ρ) (h : bus.Agrees bus' R)
    (hboundary : boundary.Sim boundary' R) (number : UInt32) (argument : UInt64) (waiter : ι)
    (cancelled : Bool) {endpoint endpoint' : Endpoint ρ}
    (hready : endpoint'.readiness = endpoint.readiness) (hR : R w w') :
    Run.Agree (fun p p' => p'.1.readiness = p.1.readiness ∧ R p.2 p'.2)
      (dispatch bridge bus boundary number argument waiter cancelled endpoint w)
      (dispatch bridge bus' boundary' number argument waiter cancelled endpoint' w') := by
  simp only [dispatch]
  cases Command.ofNumber number with
  | error refused => exact .of_error _ _ _
  | ok command =>
    cases command with
    | transfer =>
      exact ((agree_transfer h hboundary argument endpoint.staging endpoint'.staging hR).map
        _).mapWorld fun _ _ hR => ⟨hready, hR⟩
    | waitForInterrupt =>
      -- A wait has nothing to do with the bus.
      simp only [waitForInterrupt, hready]
      rcases bridge.pollOr .gate waiter (endpoint.readiness, cancelled)
        with ⟨_ | _ | _, _, readiness, _⟩
      · rintro _ _ ⟨⟩ ⟨⟩
        exact ⟨rfl, rfl, hR⟩
      · exact .of_error _ _ _
      · rintro _ _ ⟨⟩ ⟨⟩
        exact ⟨rfl, rfl, hR⟩

end Endpoint

/-! ### Jobs -/

/-- The job gave a value, or had none to give. -/
def Job.Succeeded : Option (Answer μ ε) → Prop
  | none => True
  | some (.sensor outcome _) => ∃ value, outcome = .ok value
  | some (.command outcome _) => ∃ completion, outcome = .ok completion

instance : (reply : Option (Answer μ ε)) → Decidable (Job.Succeeded reply)
  | none => .isTrue trivial
  | some (.sensor (.ok value) _) => .isTrue ⟨value, rfl⟩
  | some (.sensor (.error _) _) => .isFalse fun ⟨_, h⟩ => Outcome.error_ne_ok h
  | some (.sensor (.trap _) _) => .isFalse fun ⟨_, h⟩ => Outcome.trap_ne_ok h
  | some (.command (.ok completion) _) => .isTrue ⟨completion, rfl⟩
  | some (.command (.error _) _) => .isFalse fun ⟨_, h⟩ => Outcome.error_ne_ok h
  | some (.command (.trap _) _) => .isFalse fun ⟨_, h⟩ => Outcome.trap_ne_ok h

/-- An operation that succeeds over both of two buses that agree is answered alike, and leaves
both alike. -/
theorem Operation.agree (bridge : Bridge ι ρ) {bus : RegisterBus ω ε} {bus' : RegisterBus ω' ε}
    {w : ω} {w' : ω'} (h : bus.Agrees bus' R) (boundary : Boundary μ) (operation : Operation μ ι)
    {endpoint endpoint' : Endpoint ρ} (hready : endpoint'.readiness = endpoint.readiness)
    (hR : R w w')
    (hok : Job.Succeeded (some (operation.run bridge bus boundary (endpoint, w)).1))
    (hok' : Job.Succeeded (some (operation.run bridge bus' boundary (endpoint', w')).1)) :
    (operation.run bridge bus' boundary (endpoint', w')).1
        = (operation.run bridge bus boundary (endpoint, w)).1 ∧
      (operation.run bridge bus' boundary (endpoint', w')).2.1.readiness
        = (operation.run bridge bus boundary (endpoint, w)).2.1.readiness ∧
      R (operation.run bridge bus boundary (endpoint, w)).2.2
        (operation.run bridge bus' boundary (endpoint', w')).2.2 := by
  cases operation with
  | sensor call =>
    have hagree := call.agree_run h hR
    obtain ⟨⟨outcome, buffer, v⟩, hrun⟩ : ∃ run, call.run bus w = run := ⟨_, rfl⟩
    obtain ⟨⟨outcome', buffer', v'⟩, hrun'⟩ : ∃ run, call.run bus' w' = run := ⟨_, rfl⟩
    simp only [run, hrun, hrun'] at hok hok' hagree ⊢
    obtain ⟨value, rfl⟩ := hok
    obtain ⟨value', rfl⟩ := hok'
    obtain ⟨rfl, ⟨_, hv⟩⟩ := hagree value value' rfl rfl
    exact ⟨rfl, hready, hv⟩
  | command number argument memory waiter cancelled =>
    have hboth : (fun (p : ω × μ) (p' : ω' × μ) => R p.1 p'.1 ∧ p.2 = p'.2)
        (w, memory) (w', memory) := ⟨hR, rfl⟩
    have hagree := Endpoint.agree_dispatch bridge (h.beside μ) (boundary.sim_after R) number
      argument waiter cancelled hready hboth
    obtain ⟨⟨outcome, next, v, u⟩, hrun⟩ : ∃ run, Endpoint.dispatch bridge (bus.beside μ)
      (boundary.after ω) number argument waiter cancelled endpoint (w, memory) = run := ⟨_, rfl⟩
    obtain ⟨⟨outcome', next', v', u'⟩, hrun'⟩ : ∃ run, Endpoint.dispatch bridge (bus'.beside μ)
      (boundary.after ω') number argument waiter cancelled endpoint' (w', memory) = run :=
      ⟨_, rfl⟩
    simp only [run, hrun, hrun'] at hok hok' hagree ⊢
    obtain ⟨completion, rfl⟩ := hok
    obtain ⟨completion', rfl⟩ := hok'
    obtain ⟨rfl, hnext, hv, hmemory⟩ := hagree completion completion' rfl rfl
    simp only at hmemory
    subst hmemory
    exact ⟨rfl, hnext, hv⟩

/-- A job that succeeds over both of two buses that agree is answered alike, and leaves both
alike. -/
theorem Job.agree (bridge : Bridge ι ρ) {bus : RegisterBus ω ε} {bus' : RegisterBus ω' ε}
    {w : ω} {w' : ω'} (h : bus.Agrees bus' R) (boundary : Boundary μ) (job : Job μ ι)
    {endpoint endpoint' : Endpoint ρ} (hready : endpoint'.readiness = endpoint.readiness)
    (hR : R w w') (hok : Succeeded (job.run bridge bus boundary (endpoint, w)).1)
    (hok' : Succeeded (job.run bridge bus' boundary (endpoint', w')).1) :
    (job.run bridge bus' boundary (endpoint', w')).1
        = (job.run bridge bus boundary (endpoint, w)).1 ∧
      (job.run bridge bus' boundary (endpoint', w')).2.1.readiness
        = (job.run bridge bus boundary (endpoint, w)).2.1.readiness ∧
      R (job.run bridge bus boundary (endpoint, w)).2.2
        (job.run bridge bus' boundary (endpoint', w')).2.2 := by
  cases job with
  | host operation =>
    obtain ⟨hanswer, hnext, hv⟩ := operation.agree bridge h boundary hready hR hok hok'
    exact ⟨congrArg some hanswer, hnext, hv⟩
  | execute request memory =>
    have hboth : (fun (p : ω × μ) (p' : ω' × μ) => R p.1 p'.1 ∧ p.2 = p'.2)
        (w, memory) (w', memory) := ⟨hR, rfl⟩
    have hagree := Endpoint.agree_execute (h.beside μ) (boundary.sim_after R) request
      endpoint.staging endpoint'.staging hboth
    obtain ⟨⟨outcome, staging, v, u⟩, hrun⟩ : ∃ run, Endpoint.execute (bus.beside μ)
      (boundary.after ω) request endpoint.staging (w, memory) = run := ⟨_, rfl⟩
    obtain ⟨⟨outcome', staging', v', u'⟩, hrun'⟩ : ∃ run, Endpoint.execute (bus'.beside μ)
      (boundary.after ω') request endpoint'.staging (w', memory) = run := ⟨_, rfl⟩
    simp only [run, hrun, hrun'] at hok hok' hagree ⊢
    cases outcome with
    | ok =>
      cases outcome' with
      | ok =>
        obtain ⟨_, hv, hmemory⟩ := hagree () () rfl rfl
        simp only at hmemory
        subst hmemory
        exact ⟨rfl, hready, hv⟩
      | error => exact absurd hok'.choose_spec Outcome.error_ne_ok
      | trap => exact absurd hok'.choose_spec Outcome.trap_ne_ok
    | error => exact absurd hok.choose_spec Outcome.error_ne_ok
    | trap => exact absurd hok.choose_spec Outcome.trap_ne_ok
  | interrupt =>
    refine ⟨rfl, ?_, hR⟩
    simp only [run, hready]

end SensorLink

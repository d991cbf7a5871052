/-
The two checks of a request's registers.

A request is checked against the address limit of its bus as a whole.  Then it is moved in
blocks, each of them an access of its own, which is checked again at a register of its own.
The second check never finds anything: a block of a request that passed is within the limit,
and moving the blocks before it leaves the limit where it was.

* `movePieces_ne_outOfRange`, `access_outOfRange_iff` — an access is refused by its own check;
* `Steady.access_reach` — an access leaves the reach of its bus as it was;
* `Endpoint.Passes` — a run that no check has refused;
* `moveBlock_passes`, `moveBlocks_passes` — blocks within the limit are such runs;
* `SpanChecked` — what the check of a request decides;
* `span_checks_agree` — accesses and requests are refused for their own span, or not at all.
-/
import SensorLink.Proofs.Control.Stretches
import SensorLink.Proofs.Register.AddressSpace

namespace SensorLink

variable {ω μ ε : Type} {bus : RegisterBus ω ε} {w : ω}

/-! ### Accesses -/

namespace RegisterBus

/-- Once an access goes on to its pieces, only the bus can fail. -/
theorem movePieces_ne_outOfRange (bus : RegisterBus ω ε) (direction : Direction)
    (register : UInt16) (pieces : List Span) (bytes : Bytes) (w : ω) (r : UInt16) (n : Nat) :
    (bus.movePieces direction register pieces bytes w).outcome ≠ .error (.outOfRange r n) := by
  induction pieces generalizing bytes w with
  | nil =>
    rw [movePieces_nil]
    exact Outcome.error_ne_ok.symm
  | cons piece pieces ih =>
    rw [movePieces_cons]
    cases registerAt register piece.offset with
    | none => simp
    | some target =>
      simp only
      rcases bus.chunk direction target (bytes.take piece.length) w with ⟨_ | e | t, chunk, v⟩
      · exact ih (bytes.drop piece.length) v
      · simp
      · simp

/-- An access is out of range iff it ends past the limit of its bus. -/
theorem access_outOfRange_iff (direction : Direction) (register : UInt16) (bytes : Bytes)
    (hchunk : 0 < bus.chunkSize w) :
    (∃ r n, (bus.access direction register bytes w).outcome = .error (.outOfRange r n)) ↔
      bus.addressLimit w < register.toNat + bytes.length := by
  constructor
  · rintro ⟨r, n, houtcome⟩
    by_contra hlimit
    rw [bus.access_of_le direction register (Nat.not_lt.mp hlimit) hchunk] at houtcome
    exact bus.movePieces_ne_outOfRange _ _ _ _ _ _ _ houtcome
  · intro hlimit
    rw [bus.access_of_lt direction register hlimit]
    exact ⟨_, _, rfl⟩

/-- An access within the limit leaves the reach of a steady bus as it was. -/
theorem Steady.access_reach (h : bus.Steady) (direction : Direction) (register : UInt16)
    {bytes : Bytes} (hchunk : 0 < bus.chunkSize w) (hspace : bus.addressLimit w ≤ registerSpace)
    (hlimit : register.toNat + bytes.length ≤ bus.addressLimit w) :
    let v := (bus.access direction register bytes w).world.2
    bus.chunkSize v = bus.chunkSize w ∧ bus.addressLimit v = bus.addressLimit w := by
  obtain ⟨_, _, _, _, hrun, _, _, hreach⟩ := h.access direction register hchunk hspace hlimit
  have hplain := (bus.access_traced direction register bytes w []).2.2
  rw [hrun []] at hplain
  rwa [← hplain]

end RegisterBus

/-! ### Blocks -/

namespace Endpoint

/-- No check has refused the run, and the reach of the bus is what it was. -/
structure Passes (bus : RegisterBus ω ε) (w : ω)
    (run : Run (Staging × (ω × μ)) (RequestError ε) Unit) : Prop where
  ne_outOfRange : ∀ r n, run.outcome ≠ .error (.access (.outOfRange r n))
  chunkSize : bus.chunkSize run.world.2.1 = bus.chunkSize w
  addressLimit : bus.addressLimit run.world.2.1 = bus.addressLimit w

theorem wholeTransfer_ne_outOfRange {outcome : Outcome (AccessError ε) Unit}
    (h : ∀ r n, outcome ≠ .error (.outOfRange r n)) (base : Nat) (r : UInt16) (n : Nat) :
    wholeTransfer base outcome ≠ .error (.access (.outOfRange r n)) := by
  rcases outcome with _ | e | t
  · exact Outcome.error_ne_ok.symm
  · cases e with
    | bus direction offset source =>
      simp only [wholeTransfer, AccessError.offsetBy]
      split_ifs <;> simp
    | outOfRange r' n' => exact absurd rfl (h r' n')
    | unknownSensor => simp [wholeTransfer, AccessError.offsetBy]
  · simp [wholeTransfer]

variable {request : Request}

theorem sendBlock_passes (hsteady : bus.Steady) (boundary : Boundary μ)
    (hchunk : 0 < bus.chunkSize w) (hspace : bus.addressLimit w ≤ registerSpace)
    {register : UInt16} (address : UInt64) {block : Span} (hle : block.length ≤ stagingSize)
    (hlimit : register.toNat + block.length ≤ bus.addressLimit w) (staging : Staging) (m : μ) :
    Passes bus w
      (sendBlock (bus.beside μ) (boundary.after ω) register address block staging (w, m)) := by
  obtain ⟨⟨answer, m'⟩, hcopy⟩ : ∃ run, boundary.copyIn address block.length m = run := ⟨_, rfl⟩
  cases answer with
  | error e =>
    rw [sendBlock_of_error hle (Boundary.copyIn_after hcopy w)]
    exact ⟨by simp, rfl, rfl⟩
  | ok bytes =>
    have hsize : bytes.toList.length = block.length := bytes.length_toList
    obtain ⟨hsteps, hsame⟩ :=
      hsteady.access_reach .write register hchunk hspace (hsize.symm ▸ hlimit)
    have hrange := (not_congr (bus.access_outOfRange_iff .write register bytes.toList hchunk)).mpr
      (Nat.not_lt.mpr (hsize.symm ▸ hlimit))
    rw [sendBlock_of_ok hle (Boundary.copyIn_after hcopy w) (bus.write_beside register _ w m')]
    exact ⟨wholeTransfer_ne_outOfRange (fun r n h => hrange ⟨r, n, h⟩) _, hsteps, hsame⟩

theorem fetchBlock_passes (hsteady : bus.Steady) (boundary : Boundary μ)
    (hchunk : 0 < bus.chunkSize w) (hspace : bus.addressLimit w ≤ registerSpace)
    {register : UInt16} (address : UInt64) {block : Span} (hle : block.length ≤ stagingSize)
    (hlimit : register.toNat + block.length ≤ bus.addressLimit w) (staging : Staging) (m : μ) :
    Passes bus w
      (fetchBlock (bus.beside μ) (boundary.after ω) register address block staging (w, m)) := by
  have hsize : (staging.front block.length).length = block.length := staging.length_front hle
  obtain ⟨hsteps, hsame⟩ := hsteady.access_reach .read register hchunk hspace (hsize.symm ▸ hlimit)
  have hrange := (not_congr (bus.access_outOfRange_iff .read register
    (staging.front block.length) hchunk)).mpr (Nat.not_lt.mpr (hsize.symm ▸ hlimit))
  simp only [RegisterBus.access] at hsteps hsame hrange
  have hbeside := bus.read_beside register (staging.front block.length) w m
  obtain ⟨⟨outcome, filled, v⟩, hread⟩ :
    ∃ run, bus.read register (staging.front block.length) w = run := ⟨_, rfl⟩
  rw [hread] at hsteps hsame hrange hbeside
  by_cases hok : outcome = .ok ()
  · subst hok
    obtain ⟨⟨answer, m'⟩, hcopy⟩ : ∃ run,
      boundary.copyOut address ((staging.put filled).front block.length) m = run := ⟨_, rfl⟩
    rw [fetchBlock_of_ok hbeside (Boundary.copyOut_after hcopy v)]
    exact ⟨by cases answer <;> simp [copyEnding], hsteps, hsame⟩
  · rw [fetchBlock_of_ne hbeside hok]
    exact ⟨wholeTransfer_ne_outOfRange (fun r n h => hrange ⟨r, n, h⟩) _, hsteps, hsame⟩

/-- A block within the limit passes its check. -/
theorem moveBlock_passes (hsteady : bus.Steady) (boundary : Boundary μ)
    (hchunk : 0 < bus.chunkSize w) (hspace : bus.addressLimit w ≤ registerSpace)
    (direction : Direction) {register : UInt16} (address : UInt64) {block : Span}
    (hle : block.length ≤ stagingSize)
    (hlimit : register.toNat + block.length ≤ bus.addressLimit w) (staging : Staging) (m : μ) :
    Passes bus w (moveBlock (bus.beside μ) (boundary.after ω) direction register address block
      staging (w, m)) := by
  cases direction with
  | write =>
    rw [moveBlock_write hle]
    exact sendBlock_passes hsteady boundary hchunk hspace address hle hlimit staging m
  | read =>
    rw [moveBlock_read hle]
    exact fetchBlock_passes hsteady boundary hchunk hspace address hle hlimit staging m

/-- So do blocks that end within it. -/
theorem moveBlocks_passes (hsteady : bus.Steady) (boundary : Boundary μ) {start stop : Nat}
    {blocks : List Span} (htiles : Span.Tiles stagingSize start blocks stop)
    (hchunk : 0 < bus.chunkSize w) (hspace : bus.addressLimit w ≤ registerSpace)
    (hlimit : request.register.toNat + stop ≤ bus.addressLimit w) (staging : Staging) (m : μ) :
    Passes bus w
      (moveBlocks (bus.beside μ) (boundary.after ω) request blocks staging (w, m)) := by
  induction htiles generalizing w staging m with
  | nil => exact ⟨by simp [moveBlocks], rfl, rfl⟩
  | @cons offset length stop blocks _ hpos hle htail ih =>
    have hstop := htail.le
    rcases moveBlocks_cons_cases (bus.beside μ) (boundary.after ω) request ⟨offset, length⟩ blocks
      staging (w, m) with ⟨_, hrun⟩ | ⟨_, hrun⟩ | ⟨register, address, hregister, _, hrun⟩
    · rw [hrun]
      exact ⟨by simp, rfl, rfl⟩
    · rw [hrun]
      exact ⟨by simp, rfl, rfl⟩
    · obtain ⟨target, htarget, htargetNat⟩ :=
        RegisterBus.Serves.registerAt_piece request.register offset
          (show request.register.toNat + offset < bus.addressLimit w by omega) hspace
      obtain rfl : target = register := Option.some.inj (htarget.symm.trans hregister)
      have hfirst : Passes bus w (moveBlock (bus.beside μ) (boundary.after ω) request.direction
          target address ⟨offset, length⟩ staging (w, m)) :=
        moveBlock_passes hsteady boundary hchunk hspace _ _ hle (by simp only; omega) staging m
      rw [hrun]
      obtain ⟨⟨outcome, staging', v, m'⟩, hblock⟩ : ∃ run, moveBlock (bus.beside μ)
        (boundary.after ω) request.direction target address ⟨offset, length⟩ staging (w, m) = run :=
        ⟨_, rfl⟩
      rw [hblock] at hfirst ⊢
      obtain ⟨hrange, hsize, hsame⟩ := hfirst
      by_cases hok : outcome = .ok ()
      · subst hok
        obtain ⟨hrange', hsize', hsame'⟩ :=
          ih (hsize.symm ▸ hchunk) (hsame.symm ▸ hspace) (hsame.symm ▸ hlimit) staging' m'
        exact ⟨hrange', hsize'.trans hsize, hsame'.trans hsame⟩
      · rw [Run.andThen_of_ne hok]
        exact ⟨hrange, hsize, hsame⟩

/-! ### Requests -/

/-- A request within the limit is refused by no check. -/
theorem execute_passes (hsteady : bus.Steady) (boundary : Boundary μ) (hchunk : 0 < bus.chunkSize w)
    (hspace : bus.addressLimit w ≤ registerSpace)
    (hlimit : request.register.toNat + request.length.toNat ≤ bus.addressLimit w)
    (staging : Staging) (m : μ) :
    Passes bus w (execute (bus.beside μ) (boundary.after ω) request staging (w, m)) := by
  obtain ⟨⟨answer, m'⟩, hcheck⟩ : ∃ run,
    boundary.check request.buffer request.length.toNat m = run := ⟨_, rfl⟩
  have hspan : request.register.toNat + request.length.toNat
      ≤ (bus.beside μ).addressLimit (w, m) := hlimit
  by_cases hzero : request.length.toNat = 0
  · rw [execute_of_zero (bus.beside μ) _ staging hspan hzero]
    exact ⟨by simp, rfl, rfl⟩
  have hchecked := Boundary.check_after hcheck w
  cases answer with
  | error e =>
    rw [execute_of_check_error (bus.beside μ) _ staging hspan hzero hchecked]
    exact ⟨by simp, rfl, rfl⟩
  | ok =>
    rw [execute_of_check (bus.beside μ) _ staging hspan hzero hchecked]
    exact moveBlocks_passes hsteady boundary (Span.tiles_split (by decide) _) hchunk hspace hlimit
      staging m'

/-- The check of a request decides alone whether it is out of range. -/
structure SpanChecked (bus : RegisterBus ω ε) (boundary : Boundary μ) (request : Request)
    (staging : Staging) (w : ω) (m : μ) : Prop where
  /-- The request is out of range iff it ends past the limit. -/
  outOfRange_iff :
    (∃ r n, (execute (bus.beside μ) (boundary.after ω) request staging (w, m)).outcome
      = .error (.access (.outOfRange r n))) ↔
    bus.addressLimit w < request.register.toNat + request.length.toNat
  /-- Then it is told its own register and its own length, and nothing has been called. -/
  refused : bus.addressLimit w < request.register.toNat + request.length.toNat →
    execute (bus.beside μ) (boundary.after ω) request staging (w, m)
        = ⟨.error (.access (.outOfRange request.register request.length.toNat)),
            (staging, (w, m))⟩ ∧
      calls (bus.beside μ) (boundary.after ω) request staging (w, m) = []
  /-- Otherwise each block passes the check of its access, once those before it are moved. -/
  block_passes : request.register.toNat + request.length.toNat ≤ bus.addressLimit w →
    ∀ before block after,
      Span.split stagingSize request.length.toNat = before ++ block :: after →
    ∀ m₀ staging' v m', moveBlocks (bus.beside μ) (boundary.after ω) request before staging (w, m₀)
        = ⟨.ok (), (staging', (v, m'))⟩ →
    ∃ register, registerAt request.register block.offset = some register ∧
      (checkSpan register block.length (bus.addressLimit v) : Except (AccessError ε) Unit) = .ok ()

theorem spanChecked (hsteady : bus.Steady) (boundary : Boundary μ) (hchunk : 0 < bus.chunkSize w)
    (hspace : bus.addressLimit w ≤ registerSpace) (request : Request) (staging : Staging) (m : μ) :
    SpanChecked bus boundary request staging w m where
  outOfRange_iff := by
    constructor
    · rintro ⟨r, n, houtcome⟩
      by_contra hlimit
      exact (execute_passes hsteady boundary hchunk hspace (Nat.not_lt.mp hlimit) staging
        m).ne_outOfRange r n houtcome
    · intro hlimit
      rw [execute_of_lt (w := (w, m)) (bus.beside μ) (boundary.after ω) staging hlimit]
      exact ⟨_, _, rfl⟩
  refused hlimit := by
    refine ⟨execute_of_lt (w := (w, m)) (bus.beside μ) (boundary.after ω) staging hlimit, ?_⟩
    rw [calls, execute_of_lt (w := ((w, m), [])) (bus.beside μ).traced _ staging hlimit]
  block_passes hlimit before block after hsplit m₀ staging' v m' hbefore := by
    have htiles := Span.tiles_split (show 0 < stagingSize by decide) request.length.toNat
    rw [hsplit] at htiles
    obtain ⟨hpieces, hpos, _, hend⟩ := htiles.of_append
    have hpasses := moveBlocks_passes hsteady boundary hpieces hchunk hspace
      (show request.register.toNat + block.offset ≤ bus.addressLimit w by omega) staging m₀
    rw [hbefore] at hpasses
    have hsame : bus.addressLimit v = bus.addressLimit w := hpasses.addressLimit
    obtain ⟨register, hregister, hregisterNat⟩ :=
      RegisterBus.Serves.registerAt_piece request.register block.offset
        (show request.register.toNat + block.offset < bus.addressLimit w by omega) hspace
    exact ⟨register, hregister, checkSpan_eq_ok_iff.mpr (by omega)⟩

end Endpoint

/-- An access and a request are refused for their registers iff these end past the limit of
the bus, in exact integers.  They are told their own register and their whole length, and
neither the bus nor the caller's memory has been touched.  Within the limit no block of a
request is refused, so no error is about a block. -/
theorem span_checks_agree (hsteady : bus.Steady) (hchunk : 0 < bus.chunkSize w)
    (hspace : bus.addressLimit w ≤ registerSpace) (boundary : Boundary μ) :
    (∀ direction register bytes,
      ((∃ r n, (bus.access direction register bytes w).outcome = .error (.outOfRange r n)) ↔
        bus.addressLimit w < register.toNat + bytes.length) ∧
      (bus.addressLimit w < register.toNat + bytes.length →
        bus.Refused direction register bytes w)) ∧
    ∀ request staging m, Endpoint.SpanChecked bus boundary request staging w m :=
  ⟨fun direction register bytes =>
    ⟨bus.access_outOfRange_iff direction register bytes hchunk, bus.refused_of_lt⟩,
    Endpoint.spanChecked hsteady boundary hchunk hspace⟩

open Bench in
/-- Two blocks that end at the limit of four wires, and one byte more, for a caller who has
no memory. -/
theorem span_checks_agree_four_wire :
    let bus := FourWireLink.registerBus FourWireTarget.controller
    let link : FourWireLink FourWireTarget := ⟨{}, Scratch.zero _, { registers := .zero }⟩
    let outcome := fun length => (Endpoint.execute (bus.beside Window)
      (Window.boundary.after (FourWireLink FourWireTarget)) ⟨length, 0x7800, .read, 0x1000⟩
      (Scratch.zero _) (link, ⟨0, #[]⟩)).outcome
    outcome 0x801 = .error (.access (.outOfRange 0x7800 0x801)) ∧
      (∀ r n, outcome 0x800 ≠ .error (.access (.outOfRange r n))) ∧
      bus.Refused .read 0x8001 [] link := by
  intro bus link outcome
  obtain ⟨haccess, hrequest⟩ := span_checks_agree FourWireTarget.serves_registerBus.steady
    (w := link) (by decide) (by decide) Window.boundary
  have hpast := (hrequest ⟨0x801, 0x7800, .read, 0x1000⟩ (Scratch.zero _) ⟨0, #[]⟩).refused
    (by decide)
  have hfits := (hrequest ⟨0x800, 0x7800, .read, 0x1000⟩ (Scratch.zero _) ⟨0, #[]⟩).outOfRange_iff
  refine ⟨congrArg Run.outcome hpast.1, fun r n h => ?_, (haccess .read 0x8001 []).2 (by decide)⟩
  exact absurd (hfits.mp ⟨r, n, h⟩) (by decide)

end SensorLink

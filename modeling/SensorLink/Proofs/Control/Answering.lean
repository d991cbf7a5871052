/-
Requests over buses that always answer.

Over a bus that answers no request ends in a trap, whatever is in caller memory and
however the boundary behaves.  The chunk calls of a request go through its registers from
the first one on, without gap or overlap, for as long as it gets.

* `Carried.append`, `Carried.stop` — the rest of a run, and a run that stopped early;
* `settled_wholeTransfer` — no offset of a request overflows;
* `moveBlock_carried`, `moveBlocks_carried` — one block, and all of them;
* `execute_carried` — a whole request.
-/
import SensorLink.Proofs.Control.CallsMade
import SensorLink.Proofs.Register.Answering

namespace SensorLink

variable {ω ε δ μ : Type} {bus : RegisterBus ω ε}

/-! ### Putting runs together -/

namespace RegisterBus.Carried

variable {direction : Direction} {start length more : Nat} {w v u : ω}
  {outcome : Outcome δ Unit} {calls rest : List (BusCall ε)}

/-- A run goes on after a part of it that succeeded. -/
theorem append (h : bus.Carried direction start length w (.ok () : Outcome δ Unit) calls v)
    (h' : bus.Carried direction (start + length) more v outcome rest u) :
    bus.Carried direction start (length + more) w outcome (calls ++ rest) u := by
  obtain ⟨reached, hcalls, _, hok⟩ := h.contiguous
  obtain rfl := hok rfl
  obtain ⟨reached', hrest, hle, hok⟩ := h'.contiguous
  refine ⟨h'.settled, h.behaves.append h'.behaves, reached + reached', ?_, by omega, ?_⟩
  · rw [← Nat.add_assoc]
    exact hcalls.append hrest
  · intro houtcome
    rw [hok houtcome]

/-- A run that ended with an error may have had more to move. -/
theorem stop {δ' : Type} {total : Nat} (h : bus.Carried direction start length w outcome calls v)
    (hle : length ≤ total) (e : δ') :
    bus.Carried direction start total w (.error e : Outcome δ' Unit) calls v := by
  obtain ⟨reached, hcalls, hreached, _⟩ := h.contiguous
  exact ⟨trivial, h.behaves, reached, hcalls, Nat.le_trans hreached hle,
    fun h => absurd h Outcome.error_ne_ok⟩

end RegisterBus.Carried

namespace Endpoint

/-- The ending of a block that is no trap is none for the whole transfer, either. -/
theorem settled_wholeTransfer {base : Nat} {outcome : Outcome (AccessError ε) Unit}
    (hsettled : outcome.Settled)
    (hoffset : ∀ direction offset e, outcome = .error (.bus direction offset e) →
      offset + base < AccessError.offsetLimit) :
    (wholeTransfer base outcome).Settled := by
  cases outcome with
  | ok => trivial
  | trap t => exact hsettled
  | error e =>
    cases e with
    | bus direction offset source =>
      rw [wholeTransfer, AccessError.offsetBy, if_pos (hoffset direction offset source rfl)]
      trivial
    | outOfRange register length => trivial
    | unknownSensor deviceId revisionId => trivial

/-- A block is carried for the whole transfer as it was for itself. -/
theorem carried_wholeTransfer {direction : Direction} {start length base : Nat} {w v : ω}
    {outcome : Outcome (AccessError ε) Unit} {calls : List (BusCall ε)}
    (h : bus.Carried direction start length w outcome calls v)
    (hoffset : ∀ direction offset e, outcome = .error (.bus direction offset e) → offset < length)
    (hbase : base + length ≤ UInt16.size) :
    bus.Carried direction start length w (wholeTransfer base outcome) calls v := by
  have hsize : UInt16.size ≤ AccessError.offsetLimit := by decide
  obtain ⟨reached, hcalls, hle, hok⟩ := h.contiguous
  refine ⟨settled_wholeTransfer h.settled ?_, h.behaves, reached, hcalls, hle,
    fun houtcome => hok (wholeTransfer_eq_ok houtcome)⟩
  intro direction offset e he
  have := hoffset direction offset e he
  omega

/-! ### Blocks -/

variable (boundary : Boundary μ) {w : ω}

theorem sendBlock_carried (h : bus.Answers) (hchunk : 0 < bus.chunkSize w)
    (hspace : bus.addressLimit w ≤ registerSpace) (register : UInt16) (address : UInt64)
    {block : Span} (hblock : block.length ≤ stagingSize)
    (hbase : block.offset + block.length ≤ UInt16.size) (staging : Staging) (u : μ)
    (log : List (Event ε)) :
    ∃ outcome staging' v u' calls,
      sendBlock (bus.traced.beside μ) (boundary.after (ω × List (Event ε))) register address block
          staging ((w, log), u) = ⟨outcome, (staging', ((v, log ++ calls.map .bus), u'))⟩ ∧
        bus.Carried .write register.toNat block.length w outcome calls v := by
  obtain ⟨⟨answer, u'⟩, hcopy⟩ : ∃ run, boundary.copyIn address block.length u = run := ⟨_, rfl⟩
  have hcopied := Boundary.copyIn_after hcopy (w, log)
  cases answer with
  | error e =>
    refine ⟨.error (.buffer e), staging, w, u', [], ?_, .stopped ..⟩
    rw [sendBlock_of_error hblock hcopied, List.map_nil, List.append_nil]
  | ok bytes =>
    obtain ⟨outcome, filled, v, calls, hrun, hcarried, hoffset⟩ :=
      h.access_carried .write register bytes.toList w log hchunk hspace
    rw [bytes.length_toList] at hcarried hoffset
    have hwrite : bus.traced.write register bytes.toList (w, log)
        = ⟨outcome, (v, log ++ calls.map .bus)⟩ := by
      have houtcome := congrArg Run.outcome hrun
      have hworld := congrArg (fun run => run.world.2) hrun
      exact congrArg₂ Run.mk houtcome hworld
    have hbeside := bus.traced.write_beside register bytes.toList (w, log) u'
    rw [hwrite] at hbeside
    exact ⟨_, _, v, u', calls, sendBlock_of_ok hblock hcopied hbeside,
      carried_wholeTransfer hcarried hoffset hbase⟩

theorem fetchBlock_carried (h : bus.Answers) (hchunk : 0 < bus.chunkSize w)
    (hspace : bus.addressLimit w ≤ registerSpace) (register : UInt16) (address : UInt64)
    {block : Span} (hblock : block.length ≤ stagingSize)
    (hbase : block.offset + block.length ≤ UInt16.size) (staging : Staging) (u : μ)
    (log : List (Event ε)) :
    ∃ outcome staging' v u' calls,
      fetchBlock (bus.traced.beside μ) (boundary.after (ω × List (Event ε))) register address block
          staging ((w, log), u) = ⟨outcome, (staging', ((v, log ++ calls.map .bus), u'))⟩ ∧
        bus.Carried .read register.toNat block.length w outcome calls v := by
  have hlength := staging.length_front hblock
  obtain ⟨outcome, filled, v, calls, hrun, hcarried, hoffset⟩ :=
    h.access_carried .read register (staging.front block.length) w log hchunk hspace
  rw [hlength] at hcarried hoffset
  have hread : bus.traced.read register (staging.front block.length) (w, log)
      = ⟨outcome, (filled, (v, log ++ calls.map .bus))⟩ := hrun
  have hwhole := carried_wholeTransfer hcarried hoffset hbase
  have hbeside := bus.traced.read_beside register (staging.front block.length) (w, log) u
  rw [hread] at hbeside
  by_cases hok : outcome = .ok ()
  · subst hok
    obtain ⟨⟨answer, u'⟩, hcopy⟩ : ∃ run, boundary.copyOut address
      ((staging.put filled).front block.length) u = run := ⟨_, rfl⟩
    refine ⟨_, _, v, u', calls, fetchBlock_of_ok hbeside (Boundary.copyOut_after hcopy _), ?_⟩
    cases answer with
    | error e => exact hcarried.stop (Nat.le_refl _) _
    | ok => exact hwhole
  · exact ⟨_, _, v, u, calls, fetchBlock_of_ne hbeside hok, hwhole⟩

theorem moveBlock_carried (h : bus.Answers) (hchunk : 0 < bus.chunkSize w)
    (hspace : bus.addressLimit w ≤ registerSpace) (direction : Direction) (register : UInt16)
    (address : UInt64) {block : Span} (hblock : block.length ≤ stagingSize)
    (hbase : block.offset + block.length ≤ UInt16.size) (staging : Staging) (u : μ)
    (log : List (Event ε)) :
    ∃ outcome staging' v u' calls,
      moveBlock (bus.traced.beside μ) (boundary.after (ω × List (Event ε))) direction register
          address block staging ((w, log), u)
          = ⟨outcome, (staging', ((v, log ++ calls.map .bus), u'))⟩ ∧
        bus.Carried direction register.toNat block.length w outcome calls v := by
  cases direction with
  | write =>
    rw [moveBlock_write hblock]
    exact sendBlock_carried boundary h hchunk hspace register address hblock hbase staging u log
  | read =>
    rw [moveBlock_read hblock]
    exact fetchBlock_carried boundary h hchunk hspace register address hblock hbase staging u log

theorem moveBlocks_carried (h : bus.Answers) (hchunk : 0 < bus.chunkSize w)
    (hspace : bus.addressLimit w ≤ registerSpace) (request : Request) {start stop : Nat}
    {blocks : List Span} (htiles : Span.Tiles stagingSize start blocks stop)
    (hlimit : request.register.toNat + stop ≤ bus.addressLimit w) (staging : Staging) (u : μ)
    (log : List (Event ε)) :
    ∃ outcome staging' v u' calls,
      moveBlocks (bus.traced.beside μ) (boundary.after (ω × List (Event ε))) request blocks staging
          ((w, log), u) = ⟨outcome, (staging', ((v, log ++ calls.map .bus), u'))⟩ ∧
        bus.Carried request.direction (request.register.toNat + start) (stop - start) w outcome
          calls v := by
  -- The reach of the bus is the same before every block.
  induction htiles generalizing w staging u log with
  | nil offset =>
    refine ⟨.ok (), staging, w, u, [], ?_, trivial, .refl .., 0, .nil _, Nat.zero_le _, ?_⟩
    · rw [moveBlocks, List.map_nil, List.append_nil]
    · exact fun _ => (Nat.sub_self offset).symm
  | @cons offset length stop blocks _ hpos hle htail ih =>
    have hstop := htail.le
    have hfits : stop ≤ UInt16.size := by
      have : registerSpace = UInt16.size := rfl
      omega
    obtain ⟨target, htarget, htargetNat⟩ :=
      RegisterBus.Serves.registerAt_piece request.register offset (by omega) hspace
    rcases moveBlocks_cons_cases (bus.traced.beside μ) (boundary.after (ω × List (Event ε))) request
      ⟨offset, length⟩ blocks staging ((w, log), u) with
      ⟨hnone, _⟩ | ⟨_, hrun⟩ | ⟨register, address, hregister, _, hrun⟩
    · rw [htarget] at hnone
      cases hnone
    · refine ⟨.error (.buffer ⟨request.buffer, request.length.toNat⟩), staging, w, u, [], ?_,
        .stopped ..⟩
      rw [hrun, List.map_nil, List.append_nil]
    · obtain rfl : target = register := Option.some.inj (htarget.symm.trans hregister)
      obtain ⟨outcome, staging', v, u', calls, hblock, hcarried⟩ :=
        moveBlock_carried boundary h hchunk hspace request.direction target address
          (show (⟨offset, length⟩ : Span).length ≤ stagingSize from hle)
          (Nat.le_trans hstop hfits) staging u log
      rw [htargetNat] at hcarried
      rw [hblock] at hrun
      have hkeeps := hcarried.behaves.keeps
      have hsum : stop - offset = length + (stop - (offset + length)) := by omega
      cases outcome with
      | ok =>
        obtain ⟨outcome, staging'', v', u'', more, hrest, hcarried'⟩ :=
          ih (hkeeps.chunkSize ▸ hchunk) (hkeeps.addressLimit ▸ hspace)
            (hkeeps.addressLimit ▸ hlimit) staging' u' (log ++ calls.map .bus)
        rw [← Nat.add_assoc] at hcarried'
        refine ⟨outcome, staging'', v', u'', calls ++ more, ?_, ?_⟩
        · rw [hrun, Run.andThen_ok, hrest, List.append_assoc, List.map_append]
        · rw [hsum]
          exact hcarried.append hcarried'
      | error e =>
        exact ⟨_, _, _, _, calls, hrun, hcarried.stop (by simp only; omega) e⟩
      | trap t => exact absurd hcarried.settled (Outcome.not_settled_trap t)

/-! ### A whole request -/

/-- No request ends in a trap, and its calls go through its registers in order. -/
theorem execute_carried (h : bus.Answers) (hchunk : 0 < bus.chunkSize w)
    (hspace : bus.addressLimit w ≤ registerSpace) (request : Request) (staging : Staging) (u : μ)
    (log : List (Event ε)) :
    ∃ outcome staging' v u' calls,
      execute (bus.traced.beside μ) (boundary.after (ω × List (Event ε))) request staging
          ((w, log), u) = ⟨outcome, (staging', ((v, log ++ calls.map .bus), u'))⟩ ∧
        bus.Carried request.direction request.register.toNat request.length.toNat w outcome calls
          v := by
  rcases Nat.lt_or_ge ((bus.traced.beside μ).addressLimit ((w, log), u))
    (request.register.toNat + request.length.toNat) with hlt | hspan
  · refine ⟨_, staging, w, u, [], ?_, .stopped bus request.direction request.register.toNat
      request.length.toNat w (.access (.outOfRange request.register request.length.toNat))⟩
    rw [execute_of_lt (bus.traced.beside μ) _ staging hlt, List.map_nil, List.append_nil]
  by_cases hempty : request.length.toNat = 0
  · refine ⟨.ok (), staging, w, u, [], ?_, trivial, .refl .., 0, .nil _, Nat.zero_le _,
      fun _ => hempty.symm⟩
    rw [execute_of_zero (bus.traced.beside μ) _ staging hspan hempty, List.map_nil,
      List.append_nil]
  obtain ⟨⟨answer, u'⟩, hcheck⟩ : ∃ run, boundary.check request.buffer request.length.toNat u
    = run := ⟨_, rfl⟩
  have hchecked := Boundary.check_after hcheck (w, log)
  cases answer with
  | error e =>
    refine ⟨.error (.buffer e), staging, w, u', [], ?_, .stopped ..⟩
    rw [execute_of_check_error (bus.traced.beside μ) _ staging hspan hempty hchecked, List.map_nil,
      List.append_nil]
  | ok =>
    rw [execute_of_check (bus.traced.beside μ) _ staging hspan hempty hchecked]
    exact moveBlocks_carried boundary h hchunk hspace request
      (Span.tiles_split (by decide) request.length.toNat) hspan staging u' log

end Endpoint

end SensorLink

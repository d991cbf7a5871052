/-
Simulation: buses and boundaries that do the same call by call do the same run
by run.

* `Run.Sim` — two runs that end alike, in related worlds;
* `RegisterBus.Sim`, `Boundary.Sim` — two buses, or boundaries, whose calls do;
* `RegisterBus.Sim.write`, `RegisterBus.Sim.read` — accesses of any length;
* `RegisterBus.Fills` — two buses whose reads do, though the buffers they are handed
  differ;
* `Boundary.SimOn` — two boundaries whose copies do on some ranges;
* `Endpoint.couple_execute`, `Endpoint.couple_transfer` — requests from different staging
  buffers;
* `Endpoint.sim_execute` — requests from the same one.

The errors of the second bus are those of the first one under a map, since a bus
may tag the errors of the one behind it.

Design notes.  What the buffers of two runs have in common is a relation that cutting
and joining respects.  It is equality where nothing may differ, and equal length where
what the buffers held before must not matter.
-/
import SensorLink.Control.Endpoint
import SensorLink.Proofs.Register.Tiling

namespace SensorLink

variable {ω ω' ε ε' α : Type} {R : ω → ω' → Prop} {f : ε → ε'}

/-- The runs end alike, in related worlds. -/
def Run.Sim (R : ω → ω' → Prop) (f : ε → ε') (run : Run ω ε α) (run' : Run ω' ε' α) : Prop :=
  ∃ outcome w w', run = ⟨outcome, w⟩ ∧ run' = ⟨outcome.mapError f, w'⟩ ∧ R w w'

/-- Related worlds, each beside the same thing. -/
inductive Beside (R : ω → ω' → Prop) : α × ω → α × ω' → Prop
  | intro (a : α) {w : ω} {w' : ω'} : R w w' → Beside R (a, w) (a, w')

namespace Run.Sim

variable {w : ω} {w' : ω'}

theorem of_outcome (outcome : Outcome ε α) (h : R w w') :
    Run.Sim R f ⟨outcome, w⟩ ⟨outcome.mapError f, w'⟩ :=
  ⟨outcome, w, w', rfl, rfl, h⟩

theorem ok {a : α} (h : R w w') : Run.Sim R f ⟨.ok a, w⟩ ⟨.ok a, w'⟩ :=
  of_outcome (.ok a) h

theorem error {e : ε} {e' : ε'} (he : e' = f e) (h : R w w') :
    Run.Sim R f (⟨.error e, w⟩ : Run ω ε α) ⟨.error e', w'⟩ :=
  he ▸ of_outcome (.error e) h

theorem trap {t : Trap} (h : R w w') :
    Run.Sim R f (⟨.trap t, w⟩ : Run ω ε α) ⟨.trap t, w'⟩ :=
  of_outcome (.trap t) h

variable {β σ σ' : Type} {S : σ → σ' → Prop} {run : Run ω ε α} {run' : Run ω' ε' α}

theorem map (h : Run.Sim R f run run') (g : α → β) : Run.Sim R f (run.map g) (run'.map g) := by
  obtain ⟨outcome, w, w', rfl, rfl, hR⟩ := h
  refine ⟨outcome.map g, w, w', rfl, ?_, hR⟩
  cases outcome <;> rfl

/-- The worlds may be seen through two functions that keep them related. -/
theorem mapWorld (h : Run.Sim R f run run') {g : ω → σ} {g' : ω' → σ'}
    (hg : ∀ w w', R w w' → S (g w) (g' w')) :
    Run.Sim S f (run.mapWorld g) (run'.mapWorld g') := by
  obtain ⟨outcome, w, w', rfl, rfl, hR⟩ := h
  exact of_outcome outcome (hg w w' hR)

theorem mono {R' : ω → ω' → Prop} (h : Run.Sim R f run run') (hR : ∀ w w', R w w' → R' w w') :
    Run.Sim R' f run run' := by
  obtain ⟨outcome, w, w', rfl, rfl, hw⟩ := h
  exact of_outcome outcome (hR w w' hw)

theorem andThen (h : Run.Sim R f run run') {next : α → ω → Run ω ε β}
    {next' : α → ω' → Run ω' ε' β}
    (hnext : ∀ a w w', R w w' → Run.Sim R f (next a w) (next' a w')) :
    Run.Sim R f (run.andThen next) (run'.andThen next') := by
  obtain ⟨outcome, w, w', rfl, rfl, hR⟩ := h
  cases outcome with
  | ok a => exact hnext a w w' hR
  | error e => exact .error rfl hR
  | trap t => exact .trap hR

end Run.Sim

/-! ### Buffers -/

/-- A relation between buffers that cutting and joining respects. -/
structure Piecewise (B : Bytes → Bytes → Prop) : Prop where
  length_eq : ∀ {buffer buffer'}, B buffer buffer' → buffer.length = buffer'.length
  refl : ∀ buffer, B buffer buffer
  take : ∀ {buffer buffer'} count, B buffer buffer' → B (buffer.take count) (buffer'.take count)
  drop : ∀ {buffer buffer'} count, B buffer buffer' → B (buffer.drop count) (buffer'.drop count)
  append : ∀ {buffer buffer' rest rest'}, B buffer buffer' → B rest rest' →
    B (buffer ++ rest) (buffer' ++ rest')

/-- The buffers are equally long; what they hold may be anything. -/
def Bytes.SameLength (buffer buffer' : Bytes) : Prop :=
  buffer.length = buffer'.length

theorem piecewise_eq : Piecewise Eq where
  length_eq := congrArg List.length
  refl _ := rfl
  take count := congrArg (List.take count)
  drop count := congrArg (List.drop count)
  append := by
    rintro _ _ _ _ rfl rfl
    rfl

theorem piecewise_sameLength : Piecewise Bytes.SameLength where
  length_eq := id
  refl _ := rfl
  take count h := by
    simp only [Bytes.SameLength, List.length_take] at h ⊢
    rw [h]
  drop count h := by
    simp only [Bytes.SameLength, List.length_drop] at h ⊢
    rw [h]
  append h h' := by
    simp only [Bytes.SameLength, List.length_append] at h h' ⊢
    rw [h, h']

theorem Piecewise.put {B : Bytes → Bytes → Prop} (hB : Piecewise B) {size : Nat}
    {scratch scratch' : Scratch size} {data data' : Bytes} (h : B scratch.bytes scratch'.bytes)
    (hdata : B data data') : B (scratch.put data).bytes (scratch'.put data').bytes := by
  have hrest := hB.drop data.length h
  rw [hB.length_eq hdata] at hrest
  exact hB.take size (hB.append hdata (hB.length_eq hdata ▸ hrest))

/-- The runs end alike, in related worlds and with related buffers.  A run that gives a
value has filled both buffers with the same bytes. -/
def Run.Filled (B : Bytes → Bytes → Prop) (R : ω → ω' → Prop) (f : ε → ε')
    (run : Run (Bytes × ω) ε Unit) (run' : Run (Bytes × ω') ε' Unit) : Prop :=
  ∃ outcome filled filled' w w', run = ⟨outcome, (filled, w)⟩ ∧
    run' = ⟨outcome.mapError f, (filled', w')⟩ ∧ B filled filled' ∧
    (outcome = .ok () → filled = filled') ∧ R w w'

namespace Run.Filled

variable {B : Bytes → Bytes → Prop} {run : Run (Bytes × ω) ε Unit}
  {run' : Run (Bytes × ω') ε' Unit}

theorem of_sim (hB : Piecewise B) (h : Run.Sim (Beside R) f run run') :
    Run.Filled B R f run run' := by
  obtain ⟨outcome, _, _, hrun, hrun', ⟨filled, hR⟩⟩ := h
  exact ⟨outcome, filled, filled, _, _, hrun, hrun', hB.refl filled, fun _ => rfl, hR⟩

theorem error {e : ε} {e' : ε'} {buffer buffer' : Bytes} {w : ω} {w' : ω'} (he : e' = f e)
    (hbuffer : B buffer buffer') (hR : R w w') :
    Run.Filled B R f ⟨.error e, (buffer, w)⟩ ⟨.error e', (buffer', w')⟩ := by
  refine ⟨.error e, buffer, buffer', w, w', rfl, he ▸ rfl, hbuffer, ?_, hR⟩
  intro h
  cases h

theorem trap {t : Trap} {buffer buffer' : Bytes} {w : ω} {w' : ω'} (hbuffer : B buffer buffer')
    (hR : R w w') : Run.Filled B R f ⟨.trap t, (buffer, w)⟩ ⟨.trap t, (buffer', w')⟩ := by
  refine ⟨.trap t, buffer, buffer', w, w', rfl, rfl, hbuffer, ?_, hR⟩
  intro h
  cases h

theorem sim (h : Run.Filled Eq R f run run') : Run.Sim (Beside R) f run run' := by
  obtain ⟨outcome, filled, _, w, w', rfl, rfl, rfl, _, hR⟩ := h
  exact .of_outcome outcome (.intro filled hR)

end Run.Filled

/-! ### Buses and boundaries -/

/-- The second bus does on related worlds what the first one does. -/
structure RegisterBus.Sim (bus : RegisterBus ω ε) (bus' : RegisterBus ω' ε')
    (R : ω → ω' → Prop) (f : ε → ε') : Prop where
  chunkSize : ∀ w w', R w w' → bus'.chunkSize w' = bus.chunkSize w
  addressLimit : ∀ w w', R w w' → bus'.addressLimit w' = bus.addressLimit w
  readChunk : ∀ register buffer w w', R w w' →
    Run.Sim (Beside R) f (bus.readChunk register buffer w) (bus'.readChunk register buffer w')
  writeChunk : ∀ register data w w', R w w' →
    Run.Sim R f (bus.writeChunk register data w) (bus'.writeChunk register data w')

/-- The second bus fills a related buffer as the first one does. -/
structure RegisterBus.Fills (bus : RegisterBus ω ε) (bus' : RegisterBus ω' ε')
    (B : Bytes → Bytes → Prop) (R : ω → ω' → Prop) (f : ε → ε') : Prop where
  readChunk : ∀ register {buffer buffer'} w w', B buffer buffer' → R w w' →
    Run.Filled B R f (bus.readChunk register buffer w) (bus'.readChunk register buffer' w')

/-- The second boundary does on related worlds what the first one does. -/
structure Boundary.Sim (boundary : Boundary ω) (boundary' : Boundary ω')
    (R : ω → ω' → Prop) : Prop where
  check : ∀ address length w w', R w w' → ∃ answer v v',
    boundary.check address length w = (answer, v) ∧
      boundary'.check address length w' = (answer, v') ∧ R v v'
  copyIn : ∀ address length w w', R w w' → ∃ answer v v',
    boundary.copyIn address length w = (answer, v) ∧
      boundary'.copyIn address length w' = (answer, v') ∧ R v v'
  copyOut : ∀ address data w w', R w w' → ∃ answer v v',
    boundary.copyOut address data w = (answer, v) ∧
      boundary'.copyOut address data w' = (answer, v') ∧ R v v'

/-- The second boundary does on related worlds what the first one does, as long as the
copies are of ranges that `Permits` admits: for a write they come in, for a read they go
out. -/
structure Boundary.SimOn (boundary : Boundary ω) (boundary' : Boundary ω')
    (R : ω → ω' → Prop) (Permits : Direction → UInt64 → Nat → Prop) : Prop where
  check : ∀ address length w w', R w w' → ∃ answer v v',
    boundary.check address length w = (answer, v) ∧
      boundary'.check address length w' = (answer, v') ∧ R v v'
  copyIn : ∀ address length w w', Permits .write address length → R w w' → ∃ answer v v',
    boundary.copyIn address length w = (answer, v) ∧
      boundary'.copyIn address length w' = (answer, v') ∧ R v v'
  copyOut : ∀ address data w w', Permits .read address data.length → R w w' → ∃ answer v v',
    boundary.copyOut address data w = (answer, v) ∧
      boundary'.copyOut address data w' = (answer, v') ∧ R v v'

theorem Boundary.Sim.on {boundary : Boundary ω} {boundary' : Boundary ω'}
    (h : boundary.Sim boundary' R) : boundary.SimOn boundary' R fun _ _ _ => True where
  check := h.check
  copyIn address length w w' _ := h.copyIn address length w w'
  copyOut address data w w' _ := h.copyOut address data w w'

/-- Buses that do the same do so with related things beside them. -/
theorem RegisterBus.Sim.beside {bus : RegisterBus ω ε} {bus' : RegisterBus ω' ε'} {μ μ' : Type}
    {M : μ → μ' → Prop} (h : bus.Sim bus' R f) :
    (bus.beside μ).Sim (bus'.beside μ') (fun p p' => R p.1 p'.1 ∧ M p.2 p'.2) f where
  chunkSize := by
    rintro ⟨w, memory⟩ ⟨w', memory'⟩ ⟨hR, _⟩
    exact h.chunkSize w w' hR
  addressLimit := by
    rintro ⟨w, memory⟩ ⟨w', memory'⟩ ⟨hR, _⟩
    exact h.addressLimit w w' hR
  readChunk := by
    rintro register buffer ⟨w, memory⟩ ⟨w', memory'⟩ ⟨hR, hM⟩
    simp only [RegisterBus.beside]
    refine (h.readChunk register buffer w w' hR).mapWorld ?_
    rintro _ _ ⟨filled, hR⟩
    exact .intro filled ⟨hR, hM⟩
  writeChunk := by
    rintro register data ⟨w, memory⟩ ⟨w', memory'⟩ ⟨hR, hM⟩
    simp only [RegisterBus.beside]
    exact (h.writeChunk register data w w' hR).mapWorld fun _ _ hR => ⟨hR, hM⟩

theorem RegisterBus.Fills.beside {bus : RegisterBus ω ε} {bus' : RegisterBus ω' ε'} {μ μ' : Type}
    {B : Bytes → Bytes → Prop} {M : μ → μ' → Prop} (h : bus.Fills bus' B R f) :
    (bus.beside μ).Fills (bus'.beside μ') B (fun p p' => R p.1 p'.1 ∧ M p.2 p'.2) f where
  readChunk := by
    rintro register buffer buffer' ⟨w, memory⟩ ⟨w', memory'⟩ hbuffer ⟨hR, hM⟩
    obtain ⟨outcome, filled, filled', v, v', hrun, hrun', hfilled, hsame, hv⟩ :=
      h.readChunk register w w' hbuffer hR
    simp only [RegisterBus.beside, hrun, hrun']
    exact ⟨outcome, filled, filled', _, _, rfl, rfl, hfilled, hsame, hv, hM⟩

theorem Boundary.SimOn.after {μ μ' : Type} {boundary : Boundary μ} {boundary' : Boundary μ'}
    {M : μ → μ' → Prop} {Permits : Direction → UInt64 → Nat → Prop}
    (h : boundary.SimOn boundary' M Permits) (R : ω → ω' → Prop) :
    (boundary.after ω).SimOn (boundary'.after ω') (fun p p' => R p.1 p'.1 ∧ M p.2 p'.2)
      Permits where
  check := by
    rintro address length ⟨w, memory⟩ ⟨w', memory'⟩ ⟨hR, hM⟩
    obtain ⟨answer, u, u', hcheck, hcheck', hu⟩ := h.check address length memory memory' hM
    simp only [Boundary.after, hcheck, hcheck']
    exact ⟨_, _, _, rfl, rfl, hR, hu⟩
  copyIn := by
    rintro address length ⟨w, memory⟩ ⟨w', memory'⟩ hpermits ⟨hR, hM⟩
    obtain ⟨answer, u, u', hcopy, hcopy', hu⟩ :=
      h.copyIn address length memory memory' hpermits hM
    exact ⟨_, _, _, Boundary.copyIn_after hcopy w, Boundary.copyIn_after hcopy' w', hR, hu⟩
  copyOut := by
    rintro address data ⟨w, memory⟩ ⟨w', memory'⟩ hpermits ⟨hR, hM⟩
    obtain ⟨answer, u, u', hcopy, hcopy', hu⟩ :=
      h.copyOut address data memory memory' hpermits hM
    simp only [Boundary.after, hcopy, hcopy']
    exact ⟨_, _, _, rfl, rfl, hR, hu⟩

/-- The same boundary, after worlds of any kind. -/
theorem Boundary.sim_after {μ : Type} (boundary : Boundary μ) (R : ω → ω' → Prop) :
    (boundary.after ω).Sim (boundary.after ω') (fun p p' => R p.1 p'.1 ∧ p.2 = p'.2) where
  check := by
    rintro address length ⟨w, memory⟩ ⟨w', _⟩ ⟨hR, rfl⟩
    exact ⟨_, _, _, rfl, rfl, hR, rfl⟩
  copyIn := by
    rintro address length ⟨w, memory⟩ ⟨w', _⟩ ⟨hR, rfl⟩
    exact ⟨_, _, _, rfl, rfl, hR, rfl⟩
  copyOut := by
    rintro address data ⟨w, memory⟩ ⟨w', _⟩ ⟨hR, rfl⟩
    exact ⟨_, _, _, rfl, rfl, hR, rfl⟩

namespace RegisterBus.Fills

variable {bus : RegisterBus ω ε} {bus' : RegisterBus ω' ε'} {B : Bytes → Bytes → Prop}

/-- If the pieces leave a part of the buffers out, it has to be the same in both. -/
theorem readSpans (h : bus.Fills bus' B R f) (hB : Piecewise B) (register : UInt16)
    (spans : List Span) {buffer buffer' : Bytes} (hbuffer : B buffer buffer')
    (hrest : buffer.drop (spans.map Span.length).sum = buffer'.drop (spans.map Span.length).sum)
    {w : ω} {w' : ω'} (hR : R w w') :
    Run.Filled B R (AccessError.map f) (bus.readSpans register spans buffer w)
      (bus'.readSpans register spans buffer' w') := by
  -- The worlds go on being related after each chunk, so the induction carries them along.
  induction spans generalizing buffer buffer' w w' with
  | nil => exact ⟨.ok (), buffer, buffer', w, w', rfl, rfl, hbuffer, fun _ => hrest, hR⟩
  | cons span spans ih =>
    rw [List.map_cons, List.sum_cons, ← List.drop_drop, ← List.drop_drop] at hrest
    have hdrop := hB.drop span.length hbuffer
    simp only [RegisterBus.readSpans]
    cases registerAt register span.offset with
    | none => exact .trap hbuffer hR
    | some source =>
      obtain ⟨outcome, chunk, chunk', v, v', hrun, hrun', hchunk, hsame, hv⟩ :=
        h.readChunk source w w' (hB.take span.length hbuffer) hR
      simp only [hrun, hrun']
      cases outcome with
      -- Both buses gave the same chunk, and the rest of the buffer is filled alike.
      | ok _ =>
        obtain ⟨outcome, rest, rest', u, u', hrest, hrest', hleft, hsame', hu⟩ :=
          ih hdrop hrest hv
        simp only [Outcome.mapError_ok, hrest, hrest']
        refine ⟨outcome, _, _, u, u', rfl, rfl, hB.append hchunk hleft, ?_, hu⟩
        intro houtcome
        rw [hsame rfl, hsame' houtcome]
      | error e => exact .error rfl (hB.append hchunk hdrop) hv
      | trap t => exact .trap (hB.append hchunk hdrop) hv

end RegisterBus.Fills

namespace RegisterBus.Sim

variable {bus : RegisterBus ω ε} {bus' : RegisterBus ω' ε'}

theorem fills (h : bus.Sim bus' R f) : bus.Fills bus' Eq R f where
  readChunk := by
    rintro register buffer _ w w' rfl hR
    exact .of_sim piecewise_eq (h.readChunk register buffer w w' hR)

theorem writeSpans (h : bus.Sim bus' R f) (register : UInt16) (spans : List Span) (data : Bytes)
    {w : ω} {w' : ω'} (hR : R w w') :
    Run.Sim R (AccessError.map f) (bus.writeSpans register spans data w)
      (bus'.writeSpans register spans data w') := by
  induction spans generalizing data w w' with
  | nil => exact .ok hR
  | cons span spans ih =>
    simp only [RegisterBus.writeSpans]
    cases registerAt register span.offset with
    | none => exact .trap hR
    | some target =>
      obtain ⟨outcome, v, v', hrun, hrun', hv⟩ :=
        h.writeChunk target (data.take span.length) w w' hR
      simp only [hrun, hrun']
      cases outcome with
      | ok _ => exact ih (data.drop span.length) hv
      | error e => exact .error rfl hv
      | trap t => exact .trap hv

theorem readSpans (h : bus.Sim bus' R f) (register : UInt16) (spans : List Span) (buffer : Bytes)
    {w : ω} {w' : ω'} (hR : R w w') :
    Run.Sim (Beside R) (AccessError.map f) (bus.readSpans register spans buffer w)
      (bus'.readSpans register spans buffer w') :=
  (h.fills.readSpans piecewise_eq register spans rfl rfl hR).sim

theorem write (h : bus.Sim bus' R f) (register : UInt16) (data : Bytes) {w : ω} {w' : ω'}
    (hR : R w w') :
    Run.Sim R (AccessError.map f) (bus.write register data w) (bus'.write register data w') := by
  simp only [RegisterBus.write, h.addressLimit w w' hR, h.chunkSize w w' hR]
  rcases Nat.lt_or_ge (bus.addressLimit w) (register.toNat + data.length) with hlt | hspan
  · simp only [checkSpan_of_lt hlt]
    exact .error rfl hR
  · simp only [checkSpan_of_le hspan]
    by_cases hchunk : bus.chunkSize w = 0
    · simp only [if_pos hchunk]
      exact .trap hR
    · simp only [if_neg hchunk]
      exact h.writeSpans register _ data hR

/-- A read of a whole buffer, whose bytes may differ as the buses allow. -/
theorem read_filled (h : bus.Sim bus' R f) {B : Bytes → Bytes → Prop} (hB : Piecewise B)
    (hfills : bus.Fills bus' B R f) (register : UInt16) {buffer buffer' : Bytes}
    (hbuffer : B buffer buffer') {w : ω} {w' : ω'} (hR : R w w') :
    Run.Filled B R (AccessError.map f) (bus.read register buffer w)
      (bus'.read register buffer' w') := by
  simp only [RegisterBus.read, h.addressLimit w w' hR, h.chunkSize w w' hR,
    ← hB.length_eq hbuffer]
  rcases Nat.lt_or_ge (bus.addressLimit w) (register.toNat + buffer.length) with hlt | hspan
  · simp only [checkSpan_of_lt hlt]
    exact .error rfl hbuffer hR
  · simp only [checkSpan_of_le hspan]
    by_cases hchunk : bus.chunkSize w = 0
    · simp only [if_pos hchunk]
      exact .trap hbuffer hR
    · simp only [if_neg hchunk]
      -- The chunks leave nothing of the buffers out.
      have hsum := (Span.tiles_split (Nat.pos_of_ne_zero hchunk) buffer.length).sum_lengths
      rw [Nat.zero_add] at hsum
      refine hfills.readSpans hB register _ hbuffer ?_ hR
      rw [hsum, List.drop_length, hB.length_eq hbuffer, List.drop_length]

theorem read (h : bus.Sim bus' R f) (register : UInt16) (buffer : Bytes) {w : ω} {w' : ω'}
    (hR : R w w') :
    Run.Sim (Beside R) (AccessError.map f) (bus.read register buffer w)
      (bus'.read register buffer w') :=
  (h.read_filled piecewise_eq h.fills register rfl hR).sim

end RegisterBus.Sim

/-! ### Requests -/

/-- Related staging buffers, each beside one of two related worlds. -/
def Staged (B : Bytes → Bytes → Prop) (R : ω → ω' → Prop) (p : Staging × ω) (p' : Staging × ω') :
    Prop :=
  B p.1.bytes p'.1.bytes ∧ R p.2 p'.2

theorem Staged.beside {p : Staging × ω} {p' : Staging × ω'} (h : Staged Eq R p p') :
    Beside R p p' := by
  obtain ⟨⟨bytes, hbytes⟩, w⟩ := p
  obtain ⟨⟨_, hbytes'⟩, w'⟩ := p'
  obtain ⟨hstaging, hR⟩ := h
  simp only at hstaging hR
  subst hstaging
  exact .intro (⟨bytes, hbytes⟩ : Staging) hR

namespace Endpoint

variable {bus : RegisterBus ω ε} {bus' : RegisterBus ω' ε'}
  {boundary : Boundary ω} {boundary' : Boundary ω'}

theorem wholeTransfer_mapError (base : Nat) (outcome : Outcome (AccessError ε) Unit) :
    wholeTransfer base (outcome.mapError (AccessError.map f))
      = (wholeTransfer base outcome).mapError (RequestError.map f) := by
  rcases outcome with _ | e | t
  · rfl
  · cases e with
    | bus direction offset source =>
      by_cases hfits : offset + base < AccessError.offsetLimit
      · simp only [Outcome.mapError_error, AccessError.map, wholeTransfer, AccessError.offsetBy,
          if_pos hfits, RequestError.map]
      · simp only [Outcome.mapError_error, AccessError.map, wholeTransfer, AccessError.offsetBy,
          if_neg hfits, Outcome.mapError_trap]
    | outOfRange register length => rfl
    | unknownSensor deviceId revisionId => rfl
  · rfl

section Couple

variable {B : Bytes → Bytes → Prop} {Permits : Direction → UInt64 → Nat → Prop}
  {staging staging' : Staging} {w : ω} {w' : ω'}

/-- What is written was copied in just before; the staging buffer adds nothing to it. -/
theorem couple_sendBlock (hB : Piecewise B) (hbus : bus.Sim bus' R f)
    (hboundary : boundary.SimOn boundary' R Permits) (register : UInt16) (address : UInt64)
    (block : Span) (hle : block.length ≤ stagingSize)
    (hpermits : Permits .write address block.length)
    (hstaging : B staging.bytes staging'.bytes) (hR : R w w') :
    Run.Sim (Staged B R) (RequestError.map f)
      (sendBlock bus boundary register address block staging w)
      (sendBlock bus' boundary' register address block staging' w') := by
  obtain ⟨answer, v, v', hcopy, hcopy', hv⟩ :=
    hboundary.copyIn address block.length w w' hpermits hR
  cases answer with
  | error e =>
    rw [sendBlock_of_error hle hcopy, sendBlock_of_error hle hcopy']
    exact .error rfl ⟨hstaging, hv⟩
  | ok bytes =>
    obtain ⟨outcome, u, u', hrun, hrun', hu⟩ := hbus.write register bytes.toList hv
    rw [sendBlock_of_ok hle hcopy hrun, sendBlock_of_ok hle hcopy' hrun', wholeTransfer_mapError]
    exact .of_outcome _ ⟨hB.put hstaging (hB.refl _), hu⟩

/-- What is copied out was read just before, or nothing is copied. -/
theorem couple_fetchBlock (hB : Piecewise B) (hbus : bus.Sim bus' R f)
    (hfills : bus.Fills bus' B R f) (hboundary : boundary.SimOn boundary' R Permits)
    (register : UInt16) (address : UInt64) (block : Span)
    (hpermits : ∀ length, length ≤ block.length → Permits .read address length)
    (hstaging : B staging.bytes staging'.bytes) (hR : R w w') :
    Run.Sim (Staged B R) (RequestError.map f)
      (fetchBlock bus boundary register address block staging w)
      (fetchBlock bus' boundary' register address block staging' w') := by
  have hsize := bus.length_read register (staging.front block.length) w
  obtain ⟨outcome, filled, filled', v, v', hrun, hrun', hfilled, hsame, hv⟩ :=
    hbus.read_filled hB hfills register (hB.take block.length hstaging) hR
  simp only [Scratch.front] at hsize
  rw [hrun, List.length_take, staging.length_bytes] at hsize
  simp only [fetchBlock, Scratch.front, hrun, hrun']
  have hput := hB.put hstaging hfilled
  cases outcome with
  | ok _ =>
    obtain rfl := hsame rfl
    have hfront := staging.front_put_of_le (Nat.le_of_eq hsize.symm)
    have hfront' := staging'.front_put_of_le (Nat.le_of_eq hsize.symm)
    simp only [Scratch.front] at hfront hfront'
    have hlength : (filled.take (min block.length stagingSize)).length ≤ block.length := by
      rw [List.length_take]
      omega
    obtain ⟨answer, u, u', hcopy, hcopy', hu⟩ :=
      hboundary.copyOut address (filled.take (min block.length stagingSize)) v v'
        (hpermits _ hlength) hv
    simp only [Outcome.mapError_ok, hfront, hfront', hcopy, hcopy']
    cases answer with
    | error e => exact .error rfl ⟨hput, hu⟩
    | ok _ => exact .ok ⟨hput, hu⟩
  | error e =>
    have hmap := wholeTransfer_mapError (f := f) block.offset (.error e)
    simp only [Outcome.mapError_error] at hmap ⊢
    rw [hmap]
    exact .of_outcome _ ⟨hput, hv⟩
  | trap t => exact .trap ⟨hput, hv⟩

theorem couple_moveBlock (hB : Piecewise B) (hbus : bus.Sim bus' R f)
    (hfills : bus.Fills bus' B R f) (hboundary : boundary.SimOn boundary' R Permits)
    (direction : Direction) (register : UInt16) (address : UInt64) (block : Span)
    (hpermits : ∀ length, length ≤ block.length → Permits direction address length)
    (hstaging : B staging.bytes staging'.bytes) (hR : R w w') :
    Run.Sim (Staged B R) (RequestError.map f)
      (moveBlock bus boundary direction register address block staging w)
      (moveBlock bus' boundary' direction register address block staging' w') := by
  rcases Nat.lt_or_ge stagingSize block.length with hlt | hle
  · rw [moveBlock_of_lt hlt, moveBlock_of_lt hlt]
    exact .trap ⟨hstaging, hR⟩
  cases direction with
  | write =>
    rw [moveBlock_write hle, moveBlock_write hle]
    exact couple_sendBlock hB hbus hboundary register address block hle (hpermits _ (Nat.le_refl _))
      hstaging hR
  | read =>
    rw [moveBlock_read hle, moveBlock_read hle]
    exact couple_fetchBlock hB hbus hfills hboundary register address block hpermits hstaging hR

theorem couple_moveBlocks (hB : Piecewise B) (hbus : bus.Sim bus' R f)
    (hfills : bus.Fills bus' B R f) (hboundary : boundary.SimOn boundary' R Permits)
    (request : Request) (blocks : List Span)
    (hpermits : ∀ block ∈ blocks, ∀ address length,
      addressAt request.buffer block.offset = some address → length ≤ block.length →
        Permits request.direction address length)
    (hstaging : B staging.bytes staging'.bytes) (hR : R w w') :
    Run.Sim (Staged B R) (RequestError.map f)
      (moveBlocks bus boundary request blocks staging w)
      (moveBlocks bus' boundary' request blocks staging' w') := by
  induction blocks generalizing staging staging' w w' with
  | nil => exact .ok ⟨hstaging, hR⟩
  | cons block blocks ih =>
    have hrest := fun other hmem => hpermits other (List.mem_cons_of_mem block hmem)
    simp only [moveBlocks]
    cases registerAt request.register block.offset with
    | none => exact .trap ⟨hstaging, hR⟩
    | some register =>
      cases haddress : addressAt request.buffer block.offset with
      | none => exact .error rfl ⟨hstaging, hR⟩
      | some address =>
        have hblock := fun length => hpermits block List.mem_cons_self address length haddress
        refine (couple_moveBlock hB hbus hfills hboundary request.direction register address block
          hblock hstaging hR).andThen ?_
        rintro _ ⟨staging, w⟩ ⟨staging', w'⟩ ⟨hstaging, hR⟩
        exact ih hrest hstaging hR

theorem couple_execute (hB : Piecewise B) (hbus : bus.Sim bus' R f)
    (hfills : bus.Fills bus' B R f) (hboundary : boundary.SimOn boundary' R Permits)
    (request : Request)
    (hpermits : ∀ offset address length, addressAt request.buffer offset = some address →
      offset + length ≤ request.length.toNat → Permits request.direction address length)
    (hstaging : B staging.bytes staging'.bytes) (hR : R w w') :
    Run.Sim (Staged B R) (RequestError.map f) (execute bus boundary request staging w)
      (execute bus' boundary' request staging' w') := by
  have hlimit := hbus.addressLimit w w' hR
  rcases Nat.lt_or_ge (bus.addressLimit w) (request.register.toNat + request.length.toNat)
    with hlt | hspan
  · rw [execute_of_lt bus boundary staging hlt,
      execute_of_lt bus' boundary' staging' (hlimit.symm ▸ hlt)]
    exact .error rfl ⟨hstaging, hR⟩
  have hspan' := hlimit.symm ▸ hspan
  by_cases hempty : request.length.toNat = 0
  · rw [execute_of_zero bus boundary staging hspan hempty,
      execute_of_zero bus' boundary' staging' hspan' hempty]
    exact .ok ⟨hstaging, hR⟩
  obtain ⟨answer, v, v', hcheck, hcheck', hv⟩ :=
    hboundary.check request.buffer request.length.toNat w w' hR
  cases answer with
  | error e =>
    rw [execute_of_check_error bus boundary staging hspan hempty hcheck,
      execute_of_check_error bus' boundary' staging' hspan' hempty hcheck']
    exact .error rfl ⟨hstaging, hv⟩
  | ok _ =>
    rw [execute_of_check bus boundary staging hspan hempty hcheck,
      execute_of_check bus' boundary' staging' hspan' hempty hcheck']
    refine couple_moveBlocks hB hbus hfills hboundary request _ ?_ hstaging hv
    -- A block ends inside of its request.
    intro block hmem address length haddress hle
    obtain ⟨k, hk⟩ := List.mem_iff_getElem?.mp hmem
    obtain ⟨rfl, hlt⟩ := Span.getElem?_split (by decide) hk
    simp only at haddress hle
    exact hpermits _ address length haddress (by omega)

theorem couple_transfer (hB : Piecewise B) (hbus : bus.Sim bus' R f)
    (hfills : bus.Fills bus' B R f) (hboundary : boundary.Sim boundary' R) (address : UInt64)
    (hstaging : B staging.bytes staging'.bytes) (hR : R w w') :
    Run.Sim (Staged B R) (RequestError.map f) (transfer bus boundary address staging w)
      (transfer bus' boundary' address staging' w') := by
  obtain ⟨answer, v, v', hcopy, hcopy', hv⟩ :=
    hboundary.copyIn address Request.recordLength w w' hR
  simp only [transfer, hcopy, hcopy']
  cases answer with
  | error e => exact .error rfl ⟨hstaging, hv⟩
  | ok record =>
    exact couple_execute hB hbus hfills hboundary.on (Request.decode record)
      (fun _ _ _ _ _ => trivial) hstaging hv

end Couple

theorem sim_moveBlock (hbus : bus.Sim bus' R f) (hboundary : boundary.Sim boundary' R)
    (direction : Direction) (register : UInt16) (address : UInt64) (block : Span)
    (staging : Staging) {w : ω} {w' : ω'} (hR : R w w') :
    Run.Sim (Beside R) (RequestError.map f)
      (moveBlock bus boundary direction register address block staging w)
      (moveBlock bus' boundary' direction register address block staging w') := by
  have hcouple := couple_moveBlock piecewise_eq hbus hbus.fills hboundary.on direction register
    address block (fun _ _ => trivial) (rfl : staging.bytes = staging.bytes) hR
  exact hcouple.mono fun _ _ => Staged.beside

theorem sim_moveBlocks (hbus : bus.Sim bus' R f) (hboundary : boundary.Sim boundary' R)
    (request : Request) (blocks : List Span) (staging : Staging) {w : ω} {w' : ω'}
    (hR : R w w') :
    Run.Sim (Beside R) (RequestError.map f)
      (moveBlocks bus boundary request blocks staging w)
      (moveBlocks bus' boundary' request blocks staging w') := by
  have hcouple := couple_moveBlocks piecewise_eq hbus hbus.fills hboundary.on request blocks
    (fun _ _ _ _ _ _ => trivial) (rfl : staging.bytes = staging.bytes) hR
  exact hcouple.mono fun _ _ => Staged.beside

theorem sim_execute (hbus : bus.Sim bus' R f) (hboundary : boundary.Sim boundary' R)
    (request : Request) (staging : Staging) {w : ω} {w' : ω'} (hR : R w w') :
    Run.Sim (Beside R) (RequestError.map f) (execute bus boundary request staging w)
      (execute bus' boundary' request staging w') := by
  have hcouple := couple_execute piecewise_eq hbus hbus.fills hboundary.on request
    (fun _ _ _ _ _ => trivial) (rfl : staging.bytes = staging.bytes) hR
  exact hcouple.mono fun _ _ => Staged.beside

end Endpoint

end SensorLink

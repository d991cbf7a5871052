/-
Pieces that are cut twice.

A request cuts its bytes into blocks, and each block is then cut again into the chunks of
the bus.  The pieces are those of a single cut iff the blocks end where chunks do.

* `Span.recut` — the pieces of the pieces;
* `Tiles.unique` — there is one way to tile a range with pieces of a size;
* `recut_split_eq` — cutting twice is cutting once if one size divides the other, or if
  there is only one block;
* `RegisterBus.Moved` — pieces of an access, moved by known calls;
* `Moved.cons`, `Moved.last`, `Moved.append`, `Moved.stop` — pieces after others;
* `Moved.shift` — pieces of a block;
* `RegisterBus.Steady`, `Steady.access` — accesses over a bus whose reach stays the same.
-/
import SensorLink.Proofs.Register.ChunkRun

namespace SensorLink

/-! ### Pieces -/

namespace Span

namespace Tiles

variable {size start mid stop : Nat} {piece : Span} {spans more : List Span}

theorem append (h : Tiles size start spans mid) (h' : Tiles size mid more stop) :
    Tiles size start (spans ++ more) stop := by
  induction h with
  | nil => exact h'
  | cons hdvd hpos hle _ ih => exact .cons hdvd hpos hle (ih h')

/-- A piece is as long as its size, or as what is left. -/
theorem length_first {length : Nat} (h : Tiles size start (⟨start, length⟩ :: spans) stop) :
    length = min size (stop - start) := by
  obtain _ | ⟨hdvd, hpos, hle, htail⟩ := h
  cases htail with
  | nil => omega
  | cons hnext hpos' hle' htail =>
    -- The next piece starts at a multiple of the size, so this one is whole.
    have hwhole := Nat.le_of_dvd hpos ((Nat.dvd_add_right hdvd).mp hnext)
    have := htail.le
    omega

/-- There is one way to tile a range. -/
theorem unique (h : Tiles size start spans stop) (h' : Tiles size start more stop) :
    spans = more := by
  induction h generalizing more with
  | nil offset =>
    cases h' with
    | nil => rfl
    | cons _ hpos _ htail =>
      have := htail.le
      omega
  | @cons offset length stop spans hdvd hpos hle htail ih =>
    have hfirst := (Tiles.cons hdvd hpos hle htail).length_first
    cases h' with
    | nil =>
      have := htail.le
      omega
    | cons hdvd' hpos' hle' htail' =>
      obtain rfl := hfirst.trans (Tiles.cons hdvd' hpos' hle' htail').length_first.symm
      rw [ih htail']

/-- A piece lies in what is tiled. -/
theorem offset_lt (h : Tiles size start spans stop) (hmem : piece ∈ spans) :
    piece.offset < stop := by
  induction h with
  | nil => exact absurd hmem List.not_mem_nil
  | cons _ hpos _ htail ih =>
    rcases List.mem_cons.mp hmem with rfl | hmem
    · exact Nat.lt_of_lt_of_le (Nat.lt_add_of_pos_right hpos) htail.le
    · exact ih hmem

end Tiles

/-- Cuts each of some blocks into pieces. -/
def recut (size : Nat) (blocks : List Span) : List Span :=
  blocks.flatMap fun block => (split size block.length).map (shift block.offset)

variable {outer inner start stop total : Nat} {blocks : List Span}

theorem recut_cons (size : Nat) (block : Span) (blocks : List Span) :
    recut size (block :: blocks)
      = (split size block.length).map (shift block.offset) ++ recut size blocks :=
  List.flatMap_cons

/-- The pieces of the pieces are as long as what the blocks tile. -/
theorem sum_recut (h : Tiles outer start blocks stop) (hpos : 0 < inner) :
    start + ((recut inner blocks).map Span.length).sum = stop := by
  induction h with
  | nil => rfl
  | @cons offset length stop blocks _ _ _ _ ih =>
    have hblock := (tiles_split hpos length).sum_lengths
    have hsame : ((split inner length).map (shift offset)).map Span.length
        = (split inner length).map Span.length := List.map_map
    rw [recut_cons, List.map_append, List.sum_append, hsame]
    omega

/-- The pieces of a block, where the block is. -/
theorem tiles_block (hpos : 0 < inner) (length : Nat) {offset : Nat} (hdvd : inner ∣ offset) :
    Tiles inner offset ((split inner length).map (shift offset)) (offset + length) := by
  have htiles := (tiles_split hpos length).shift hdvd
  rwa [Nat.zero_add, Nat.add_comm length] at htiles

theorem tiles_recut (h : Tiles outer start blocks stop) (hpos : 0 < inner) (hdvd : inner ∣ outer) :
    Tiles inner start (recut inner blocks) stop := by
  induction h with
  | nil => exact .nil _
  | @cons offset length stop blocks houter _ _ _ ih =>
    rw [recut_cons]
    exact (tiles_block hpos length (Nat.dvd_trans hdvd houter)).append ih

/-- Cutting twice is cutting once, if there is one block or the blocks end where pieces
do. -/
theorem recut_split_eq (houter : 0 < outer) (hinner : 0 < inner)
    (h : total ≤ outer ∨ inner ∣ outer) : recut inner (split outer total) = split inner total := by
  rcases h with hle | hdvd
  · rcases Nat.eq_zero_or_pos total with rfl | htotal
    · rw [split_zero, split_zero]
      rfl
    · have hone : split outer total = [⟨0, total⟩] := by
        rw [split_of_pos houter htotal, Nat.sub_eq_zero_of_le hle, split_zero, List.map_nil,
          Nat.min_eq_right hle]
      rw [hone, recut, List.flatMap_singleton]
      exact (List.map_congr_left fun _ _ => rfl).trans (List.map_id _)
  · exact (tiles_recut (tiles_split houter total) hinner hdvd).unique (tiles_split hinner total)

end Span

/-! ### Accesses piece by piece -/

variable {ω ε δ : Type}

/-- The error of a piece, told for a transfer in which it starts at `base`. -/
def AccessError.moveUp (base : Nat) : AccessError ε → AccessError ε
  | .bus direction offset source => .bus direction (offset + base) source
  | .outOfRange register length => .outOfRange register length
  | .unknownSensor deviceId revisionId => .unknownSensor deviceId revisionId

/-- A run that fails reports one of its pieces. -/
theorem ChunkRun.of_error {direction : Direction} {register : Nat} {Post : Bytes → BusCall ε → Prop}
    {pieces : List Span} {bytes : Bytes} {calls : List (BusCall ε)} {cause : AccessError ε}
    (h : ChunkRun direction register Post pieces bytes calls (.error cause)) :
    ∃ piece ∈ pieces, ∃ e, cause = .bus direction piece.offset e := by
  generalize houtcome : (Outcome.error cause : Outcome (AccessError ε) Unit) = outcome at h
  induction h with
  | nil => cases houtcome
  | cons _ _ _ _ ih =>
    obtain ⟨piece, hmem, hcause⟩ := ih houtcome
    exact ⟨piece, List.mem_cons_of_mem _ hmem, hcause⟩
  | last =>
    obtain ⟨e, _, hcause⟩ := Outcome.mapError_eq_error.mp houtcome.symm
    exact ⟨_, List.mem_cons_self, e, hcause.symm⟩

namespace RegisterBus

variable (bus : RegisterBus ω ε) (direction : Direction)

/-- Pieces that are moved after others. -/
theorem movePieces_append (register : UInt16) (pieces more : List Span) {bytes : Bytes}
    (rest : Bytes) (w : ω) (hlength : bytes.length = (pieces.map Span.length).sum) :
    bus.movePieces direction register (pieces ++ more) (bytes ++ rest) w
      = match bus.movePieces direction register pieces bytes w with
        | ⟨.ok _, (filled, v)⟩ =>
          (bus.movePieces direction register more rest v).mapWorld fun p => (filled ++ p.1, p.2)
        | ⟨.error e, (filled, v)⟩ => ⟨.error e, (filled ++ rest, v)⟩
        | ⟨.trap t, (filled, v)⟩ => ⟨.trap t, (filled ++ rest, v)⟩ := by
  induction pieces generalizing bytes w with
  | nil =>
    obtain rfl : bytes = [] := List.eq_nil_of_length_eq_zero hlength
    rw [movePieces_nil]
    rfl
  | cons piece pieces ih =>
    rw [List.map_cons, List.sum_cons] at hlength
    have hle : piece.length ≤ bytes.length := by omega
    have hdrop : (bytes.drop piece.length).length = (pieces.map Span.length).sum := by
      rw [List.length_drop]
      omega
    simp only [List.cons_append, movePieces_cons]
    cases registerAt register piece.offset with
    | none => rfl
    | some target =>
      simp only [List.take_append_of_le_length hle, List.drop_append_of_le_length hle]
      rcases bus.chunk direction target (bytes.take piece.length) w with ⟨_ | e | t, chunk, v⟩
      · simp only [ih v hdrop]
        rcases bus.movePieces direction register pieces (bytes.drop piece.length) v with
          ⟨_ | e | t, filled, u⟩
        · simp only [Run.mapWorld, List.append_assoc]
        · simp only [Run.mapWorld, List.append_assoc]
        · simp only [Run.mapWorld, List.append_assoc]
      · simp only [List.append_assoc]
      · simp only [List.append_assoc]

/-- Pieces of a block are moved as if the block was all there is, but their offsets are
those in the whole. -/
theorem movePieces_shift {register target : UInt16} {base : Nat}
    (htarget : target.toNat = register.toNat + base) (pieces : List Span)
    (hspace : ∀ piece ∈ pieces, target.toNat + piece.offset < registerSpace) (bytes : Bytes)
    (w : ω) :
    bus.movePieces direction register (pieces.map (Span.shift base)) bytes w
      = (bus.movePieces direction target pieces bytes w).mapError (AccessError.moveUp base) := by
  induction pieces generalizing bytes w with
  | nil =>
    rw [List.map_nil, movePieces_nil, movePieces_nil]
    rfl
  | cons piece pieces ih =>
    have hlt := hspace piece List.mem_cons_self
    have hsame : registerAt register (piece.offset + base) = registerAt target piece.offset := by
      rw [registerAt_of_lt hlt, registerAt_of_lt (by omega), htarget]
      congr 2
      omega
    have htail := ih fun other hmem => hspace other (List.mem_cons_of_mem _ hmem)
    simp only [List.map_cons, movePieces_cons, Span.shift, hsame, registerAt_of_lt hlt, htail]
    rcases bus.chunk direction (UInt16.ofNat (target.toNat + piece.offset))
      (bytes.take piece.length) w with ⟨_ | e | t, chunk, v⟩
    · rfl
    · rfl
    · rfl

/-! ### Pieces and their calls -/

/-- The pieces are moved by the calls, whatever was noted before. -/
def Moved (register : UInt16) (pieces : List Span) (handed : Bytes) (w : ω)
    (outcome : Outcome (AccessError ε) Unit) (v : ω) (calls : List (BusCall ε)) : Prop :=
  ∃ filled, ∀ log, bus.traced.movePieces direction register pieces handed (w, log)
    = ⟨outcome, (filled, (v, log ++ calls.map .bus))⟩

namespace Moved

variable {bus direction} {register : UInt16} {pieces : List Span} {handed : Bytes} {w v : ω}
  {outcome : Outcome (AccessError ε) Unit} {calls : List (BusCall ε)}

theorem nil (bus : RegisterBus ω ε) (direction : Direction) (register : UInt16) (handed : Bytes)
    (w : ω) : bus.Moved direction register [] handed w (.ok ()) w [] := by
  refine ⟨handed, fun log => ?_⟩
  rw [movePieces_nil, List.map_nil, List.append_nil]

/-- A piece that is moved, and then the others. -/
theorem cons {piece : Span} {target : UInt16} {chunk : Bytes} {u : ω}
    (htarget : registerAt register piece.offset = some target)
    (hchunk : bus.chunk direction target (handed.take piece.length) w = ⟨.ok (), (chunk, v)⟩)
    (h : bus.Moved direction register pieces (handed.drop piece.length) v outcome u calls) :
    bus.Moved direction register (piece :: pieces) handed w outcome u
      (⟨direction, target, chunk, .ok ()⟩ :: calls) := by
  obtain ⟨filled, hrun⟩ := h
  refine ⟨chunk ++ filled, fun log => ?_⟩
  simp only [movePieces_cons, htarget, traced_chunk, hchunk, hrun, Run.mapWorld, List.map_cons,
    List.append_assoc, List.singleton_append]

/-- A piece that is not moved is the last one. -/
theorem last {piece : Span} {target : UInt16} {chunk : Bytes} {ending : Outcome ε Unit}
    (htarget : registerAt register piece.offset = some target)
    (hchunk : bus.chunk direction target (handed.take piece.length) w = ⟨ending, (chunk, v)⟩)
    (hne : ending ≠ .ok ()) (pieces : List Span) :
    bus.Moved direction register (piece :: pieces) handed w
      (ending.mapError (.bus direction piece.offset)) v [⟨direction, target, chunk, ending⟩] := by
  refine ⟨chunk ++ handed.drop piece.length, fun log => ?_⟩
  simp only [movePieces_cons, htarget, traced_chunk, hchunk]
  cases ending with
  | ok => exact absurd rfl hne
  | error => rfl
  | trap => rfl

/-- A piece that is past the last register. -/
theorem overflow {piece : Span} (htarget : registerAt register piece.offset = none)
    (pieces : List Span) (handed : Bytes) (w : ω) :
    bus.Moved direction register (piece :: pieces) handed w (.trap .registerOverflow) w [] := by
  refine ⟨handed, fun log => ?_⟩
  simp only [movePieces_cons, htarget, List.map_nil, List.append_nil]

/-- Pieces are moved in one way. -/
theorem unique {outcome' : Outcome (AccessError ε) Unit} {v' : ω} {calls' : List (BusCall ε)}
    (h : bus.Moved direction register pieces handed w outcome v calls)
    (h' : bus.Moved direction register pieces handed w outcome' v' calls') :
    outcome = outcome' ∧ v = v' ∧ calls = calls' := by
  obtain ⟨_, hrun⟩ := h
  obtain ⟨_, hrun'⟩ := h'
  have hsame := (hrun []).symm.trans (hrun' [])
  simp only [Run.mk.injEq, Prod.mk.injEq, List.nil_append] at hsame
  obtain ⟨houtcome, _, hworld, hcalls⟩ := hsame
  refine ⟨houtcome, hworld, ?_⟩
  rw [← Event.busCalls_map_bus calls, hcalls, Event.busCalls_map_bus]

/-- Pieces that are moved after others. -/
theorem append {more : List Span} {rest : Bytes} {u : ω} {later : List (BusCall ε)}
    (h : bus.Moved direction register pieces handed w (.ok ()) v calls)
    (hlength : handed.length = (pieces.map Span.length).sum)
    (h' : bus.Moved direction register more rest v outcome u later) :
    bus.Moved direction register (pieces ++ more) (handed ++ rest) w outcome u
      (calls ++ later) := by
  obtain ⟨filled, hrun⟩ := h
  obtain ⟨filled', hrun'⟩ := h'
  refine ⟨filled ++ filled', fun log => ?_⟩
  simp only [movePieces_append _ _ _ _ _ _ _ hlength, hrun, hrun', Run.mapWorld, List.map_append,
    List.append_assoc]

/-- Nothing is moved after a piece that failed. -/
theorem stop (h : bus.Moved direction register pieces handed w outcome v calls)
    (hlength : handed.length = (pieces.map Span.length).sum) (hne : outcome ≠ .ok ())
    (more : List Span) (rest : Bytes) :
    bus.Moved direction register (pieces ++ more) (handed ++ rest) w outcome v calls := by
  obtain ⟨filled, hrun⟩ := h
  refine ⟨filled ++ rest, fun log => ?_⟩
  rw [movePieces_append _ _ _ _ _ _ _ hlength, hrun]
  cases outcome with
  | ok => exact absurd rfl hne
  | error => rfl
  | trap => rfl

/-- The pieces of a block, moved as a part of the whole. -/
theorem shift {target : UInt16} {base : Nat}
    (h : bus.Moved direction target pieces handed w outcome v calls)
    (htarget : target.toNat = register.toNat + base)
    (hspace : ∀ piece ∈ pieces, target.toNat + piece.offset < registerSpace) :
    bus.Moved direction register (pieces.map (Span.shift base)) handed w
      (outcome.mapError (AccessError.moveUp base)) v calls := by
  obtain ⟨filled, hrun⟩ := h
  refine ⟨filled, fun log => ?_⟩
  rw [movePieces_shift _ _ htarget _ hspace, hrun]
  rfl

end Moved

/-- What is moved does not depend on what was noted before. -/
theorem movePieces_earlier {register : UInt16} {pieces : List Span} {bytes filled : Bytes} {w v : ω}
    {outcome : Outcome (AccessError ε) Unit} {events : List (Event ε)}
    (h : bus.traced.movePieces direction register pieces bytes (w, [])
      = ⟨outcome, (filled, (v, events))⟩) (log : List (Event ε)) :
    bus.traced.movePieces direction register pieces bytes (w, log)
      = ⟨outcome, (filled, (v, log ++ events))⟩ := by
  have hlog : (w, log) = (w, log ++ []) := by rw [List.append_nil]
  cases direction with
  | read =>
    obtain ⟨outcome, _, _, hrun, hrun', ⟨filled, rfl⟩⟩ :=
      (bus.sim_earlier log).readSpans register pieces bytes (w := (w, [])) hlog
    simp only [movePieces, hrun, hrun', outcome.mapError_eq_self AccessError.map_id] at h ⊢
    cases h
    rfl
  | write =>
    obtain ⟨outcome, p, _, hrun, hrun', rfl⟩ :=
      (bus.sim_earlier log).writeSpans register pieces bytes (w := (w, [])) hlog
    simp only [movePieces, hrun, hrun', outcome.mapError_eq_self AccessError.map_id] at h ⊢
    cases h
    rfl

/-- No chunk call within the reach of the bus changes its reach. -/
def Steady : Prop :=
  ∀ direction register bytes w, bus.Reaches register bytes.length w →
    let v := (bus.chunk direction register bytes w).world.2
    bus.chunkSize v = bus.chunkSize w ∧ bus.addressLimit v = bus.addressLimit w

theorem Serves.steady {bus : RegisterBus ω ε} {contents : ω → Contents} {Failed : ω → Prop}
    (h : bus.Serves contents Failed) : bus.Steady := by
  intro direction register bytes w hreach
  cases direction with
  | read =>
    obtain ⟨_, _, v, hrun, hkeeps, _⟩ := h.readChunk register bytes w hreach
    simp only [chunk, hrun]
    exact ⟨hkeeps.chunkSize, hkeeps.addressLimit⟩
  | write =>
    obtain ⟨_, v, hrun, hkeeps, _⟩ := h.writeChunk register bytes w hreach
    simp only [chunk, hrun, Run.mapWorld]
    exact ⟨hkeeps.chunkSize, hkeeps.addressLimit⟩

/-- An access over a steady bus moves the pieces of its cut. -/
theorem Steady.access {bus : RegisterBus ω ε} (h : bus.Steady) (direction : Direction)
    (register : UInt16) {bytes : Bytes} {w : ω} (hchunk : 0 < bus.chunkSize w)
    (hspace : bus.addressLimit w ≤ registerSpace)
    (hlimit : register.toNat + bytes.length ≤ bus.addressLimit w) :
    ∃ outcome filled v calls,
      (∀ log, bus.traced.access direction register bytes (w, log)
        = ⟨outcome, (filled, (v, log ++ calls.map .bus))⟩) ∧
      bus.Moved direction register (Span.split (bus.chunkSize w) bytes.length) bytes w outcome v
        calls ∧
      ChunkRun direction register.toNat (fun _ _ => True)
        (Span.split (bus.chunkSize w) bytes.length) bytes calls outcome ∧
      bus.chunkSize v = bus.chunkSize w ∧ bus.addressLimit v = bus.addressLimit w := by
  have hmaintains : bus.Maintains direction (bus.chunkSize w) (bus.addressLimit w)
      (fun v => bus.chunkSize v = bus.chunkSize w ∧ bus.addressLimit v = bus.addressLimit w)
      (fun _ _ => True) := by
    rintro register bytes v hpos hle hstop ⟨hsize, hlimit⟩
    obtain ⟨hsize', hlimit'⟩ :=
      h direction register bytes v ⟨hpos, hsize.symm ▸ hle, hlimit.symm ▸ hstop⟩
    exact ⟨_, _, _, rfl, ⟨hsize'.trans hsize, hlimit'.trans hlimit⟩, trivial⟩
  obtain ⟨outcome, filled, v, calls, hrun, hchunks, hv, _⟩ :=
    hmaintains.movePieces register (Span.tiles_split hchunk bytes.length) bytes w [] ⟨rfl, rfl⟩
      hlimit (Nat.le_trans hlimit hspace) (Nat.zero_add _)
  have hmoved := bus.movePieces_earlier direction hrun
  refine ⟨outcome, filled, v, calls, fun log => ?_, ⟨filled, hmoved⟩, hchunks, hv⟩
  rw [bus.traced.access_of_le (w := (w, log)) direction register hlimit hchunk]
  exact hmoved log

end RegisterBus

end SensorLink

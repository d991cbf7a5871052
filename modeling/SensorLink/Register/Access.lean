/-
Reads and writes of any length over a register bus.

An access is first checked against the address limit of the bus, as a whole, and
then cut into chunks, which are moved in order until one fails.

* `AccessError` — why an access failed, `AccessError.message` — in words;
* `checkSpan` — accepts the spans that end below a limit;
* `RegisterBus.read`, `RegisterBus.write` — the accesses;
* `checkSpan_eq_ok_iff` — acceptance is a comparison of exact integers.
-/
import SensorLink.Count
import SensorLink.Register.Address
import SensorLink.Register.Bus
import SensorLink.Register.Span
import SensorLink.Text.Hex

namespace SensorLink

/-- The way bytes move, seen from the host. -/
inductive Direction where
  | read
  | write
  deriving DecidableEq, Repr

/-- The direction in words. -/
def Direction.text : Direction → String
  | read => "read"
  | write => "write"

/-- Why an access to the sensor failed; `ε` are the errors of the bus. -/
inductive AccessError (ε : Type) where
  /-- The bus failed on the chunk that starts `offset` bytes into the access. -/
  | bus (direction : Direction) (offset : Nat) (source : ε)
  /-- The access does not fit into the registers that the bus reaches. -/
  | outOfRange (register : UInt16) (length : Nat)
  /-- The identity registers hold something else than expected. -/
  | unknownSensor (deviceId revisionId : UInt8)
  deriving DecidableEq, Repr

namespace AccessError

variable {ε δ : Type}

/-- Offsets are counted in this many steps before they overflow. -/
def offsetLimit : Nat := UInt64.size

/-- The error of a piece that starts `base` bytes into a longer transfer, unless
the offset it reports would overflow. -/
def offsetBy (base : Nat) : AccessError ε → Option (AccessError ε)
  | bus direction offset source =>
    if offset + base < offsetLimit then some (bus direction (offset + base) source) else none
  | outOfRange register length => some (outOfRange register length)
  | unknownSensor deviceId revisionId => some (unknownSensor deviceId revisionId)

/-- The error of the bus, if it was the bus that failed. -/
def busError? : AccessError ε → Option ε
  | bus _ _ source => some source
  | outOfRange .. => none
  | unknownSensor .. => none

/-- Applies `f` to the error of the bus. -/
def map (f : ε → δ) : AccessError ε → AccessError δ
  | bus direction offset source => bus direction offset (f source)
  | outOfRange register length => outOfRange register length
  | unknownSensor deviceId revisionId => unknownSensor deviceId revisionId

/-- The error in words, given words for the errors of the bus. -/
def message (describe : ε → String) : AccessError ε → String
  | bus direction offset source =>
    s!"bus error during {direction.text} at offset {offset}: {describe source}"
  | outOfRange register length =>
    s!"{length} bytes at 0x{hexText 4 register.toNat} exceed the register space"
  | unknownSensor deviceId revisionId =>
    s!"unexpected device id 0x{hexText 2 deviceId.toNat} / revision 0x{hexText 2 revisionId.toNat}"

end AccessError

/-- Accepts `length` bytes from `register` up if they end at or below `limit`. -/
def checkSpan {ε : Type} (register : UInt16) (length limit : Nat) :
    Except (AccessError ε) Unit :=
  match endWithin? limit register.toNat length with
  | some _ => .ok ()
  | none => .error (.outOfRange register length)

section CheckSpan

variable {ε : Type} {register : UInt16} {length limit : Nat}

theorem checkSpan_of_le (h : register.toNat + length ≤ limit) :
    (checkSpan register length limit : Except (AccessError ε) Unit) = .ok () := by
  rw [checkSpan, endWithin?_eq_some_iff.mpr ⟨rfl, h⟩]

theorem checkSpan_of_lt (h : limit < register.toNat + length) :
    (checkSpan register length limit : Except (AccessError ε) Unit)
      = .error (.outOfRange register length) := by
  rw [checkSpan, endWithin?_eq_none_iff.mpr h]

/-- A span is accepted if it ends at or below the limit, as an exact integer. -/
theorem checkSpan_eq_ok_iff :
    (checkSpan register length limit : Except (AccessError ε) Unit) = .ok () ↔
      register.toNat + length ≤ limit := by
  refine ⟨fun h => Nat.le_of_not_lt fun hlt => ?_, checkSpan_of_le⟩
  rw [checkSpan_of_lt hlt] at h
  cases h

end CheckSpan

namespace RegisterBus

variable {ω ε : Type}

/-- Writes the pieces of `data` in order, each at its place above `register`. -/
def writeSpans (bus : RegisterBus ω ε) (register : UInt16) :
    List Span → Bytes → ω → Run ω (AccessError ε) Unit
  | [], _, w => ⟨.ok (), w⟩
  | span :: spans, data, w =>
    match registerAt register span.offset with
    | none => ⟨.trap .registerOverflow, w⟩
    | some target =>
      match bus.writeChunk target (data.take span.length) w with
      | ⟨.ok _, w⟩ => bus.writeSpans register spans (data.drop span.length) w
      | ⟨.error e, w⟩ => ⟨.error (.bus .write span.offset e), w⟩
      | ⟨.trap t, w⟩ => ⟨.trap t, w⟩

/-- Fills the pieces of `buffer` in order, each from its place above `register`;
pieces that are not reached keep their bytes. -/
def readSpans (bus : RegisterBus ω ε) (register : UInt16) :
    List Span → Bytes → ω → Run (Bytes × ω) (AccessError ε) Unit
  | [], buffer, w => ⟨.ok (), (buffer, w)⟩
  | span :: spans, buffer, w =>
    match registerAt register span.offset with
    | none => ⟨.trap .registerOverflow, (buffer, w)⟩
    | some source =>
      match bus.readChunk source (buffer.take span.length) w with
      | ⟨.ok _, (chunk, w)⟩ =>
        (bus.readSpans register spans (buffer.drop span.length) w).mapWorld
          fun (rest, w) => (chunk ++ rest, w)
      | ⟨.error e, (chunk, w)⟩ =>
        ⟨.error (.bus .read span.offset e), (chunk ++ buffer.drop span.length, w)⟩
      | ⟨.trap t, (chunk, w)⟩ => ⟨.trap t, (chunk ++ buffer.drop span.length, w)⟩

/-- Writes `data` to the registers from `register` up. -/
def write (bus : RegisterBus ω ε) (register : UInt16) (data : Bytes) (w : ω) :
    Run ω (AccessError ε) Unit :=
  match checkSpan register data.length (bus.addressLimit w) with
  | .error e => ⟨.error e, w⟩
  | .ok _ =>
    if bus.chunkSize w = 0 then ⟨.trap .zeroChunkSize, w⟩
    else bus.writeSpans register (Span.split (bus.chunkSize w) data.length) data w

/-- Fills `buffer` from the registers from `register` up. -/
def read (bus : RegisterBus ω ε) (register : UInt16) (buffer : Bytes) (w : ω) :
    Run (Bytes × ω) (AccessError ε) Unit :=
  match checkSpan register buffer.length (bus.addressLimit w) with
  | .error e => ⟨.error e, (buffer, w)⟩
  | .ok _ =>
    if bus.chunkSize w = 0 then ⟨.trap .zeroChunkSize, (buffer, w)⟩
    else bus.readSpans register (Span.split (bus.chunkSize w) buffer.length) buffer w

theorem length_readSpans (bus : RegisterBus ω ε) (register : UInt16) (spans : List Span)
    (buffer : Bytes) (w : ω) :
    (bus.readSpans register spans buffer w).world.1.length = buffer.length := by
  -- Each chunk keeps its length, by the contract of the bus.
  fun_induction readSpans bus register spans buffer w with
  | case1 => rfl
  | case2 => rfl
  | case3 span spans buffer w source h _ chunk w' heq ih =>
    have := bus.length_readChunk source (buffer.take span.length) w
    simp only [heq] at this
    simp only [Run.world_mapWorld, List.length_append, ih, this, List.length_take, List.length_drop]
    omega
  | case4 span spans buffer w source h e chunk w' heq =>
    have := bus.length_readChunk source (buffer.take span.length) w
    simp only [heq] at this
    simp only [List.length_append, this, List.length_take, List.length_drop]
    omega
  | case5 span spans buffer w source h t chunk w' heq =>
    have := bus.length_readChunk source (buffer.take span.length) w
    simp only [heq] at this
    simp only [List.length_append, this, List.length_take, List.length_drop]
    omega

/-- A read gives back a buffer as long as the one it was handed. -/
theorem length_read (bus : RegisterBus ω ε) (register : UInt16) (buffer : Bytes) (w : ω) :
    (bus.read register buffer w).world.1.length = buffer.length := by
  unfold read
  split
  · rfl
  · split
    · rfl
    · exact bus.length_readSpans ..

/-- A write within the limit goes on to its chunks. -/
theorem write_of_le (bus : RegisterBus ω ε) {register : UInt16} {data : Bytes} {w : ω}
    (hlimit : register.toNat + data.length ≤ bus.addressLimit w) (hchunk : 0 < bus.chunkSize w) :
    bus.write register data w
      = bus.writeSpans register (Span.split (bus.chunkSize w) data.length) data w := by
  rw [write, checkSpan_of_le hlimit]
  exact if_neg (Nat.ne_of_gt hchunk)

/-- A write past the limit is refused. -/
theorem write_of_lt (bus : RegisterBus ω ε) {register : UInt16} {data : Bytes} {w : ω}
    (hlimit : bus.addressLimit w < register.toNat + data.length) :
    bus.write register data w = ⟨.error (.outOfRange register data.length), w⟩ := by
  rw [write, checkSpan_of_lt hlimit]

/-- A write that succeeds passed the check and wrote all of its chunks. -/
theorem write_ok (bus : RegisterBus ω ε) {register : UInt16} {data : Bytes} {w v : ω}
    (h : bus.write register data w = ⟨.ok (), v⟩) :
    0 < bus.chunkSize w ∧ register.toNat + data.length ≤ bus.addressLimit w ∧
      bus.writeSpans register (Span.split (bus.chunkSize w) data.length) data w = ⟨.ok (), v⟩ := by
  rcases Nat.lt_or_ge (bus.addressLimit w) (register.toNat + data.length) with hlt | hlimit
  · rw [bus.write_of_lt hlt] at h
    cases h
  rcases Nat.eq_zero_or_pos (bus.chunkSize w) with hzero | hchunk
  · rw [write, checkSpan_of_le hlimit] at h
    simp only [if_pos hzero] at h
    cases h
  · rw [bus.write_of_le hlimit hchunk] at h
    exact ⟨hchunk, hlimit, h⟩

/-- A read within the limit goes on to its chunks. -/
theorem read_of_le (bus : RegisterBus ω ε) {register : UInt16} {buffer : Bytes} {w : ω}
    (hlimit : register.toNat + buffer.length ≤ bus.addressLimit w) (hchunk : 0 < bus.chunkSize w) :
    bus.read register buffer w
      = bus.readSpans register (Span.split (bus.chunkSize w) buffer.length) buffer w := by
  rw [read, checkSpan_of_le hlimit]
  exact if_neg (Nat.ne_of_gt hchunk)

/-- A read past the limit is refused. -/
theorem read_of_lt (bus : RegisterBus ω ε) {register : UInt16} {buffer : Bytes} {w : ω}
    (hlimit : bus.addressLimit w < register.toNat + buffer.length) :
    bus.read register buffer w = ⟨.error (.outOfRange register buffer.length), (buffer, w)⟩ := by
  rw [read, checkSpan_of_lt hlimit]

/-- A read that succeeds passed the check and read all of its chunks. -/
theorem read_ok (bus : RegisterBus ω ε) {register : UInt16} {buffer filled : Bytes} {w v : ω}
    (h : bus.read register buffer w = ⟨.ok (), (filled, v)⟩) :
    0 < bus.chunkSize w ∧ register.toNat + buffer.length ≤ bus.addressLimit w ∧
      bus.readSpans register (Span.split (bus.chunkSize w) buffer.length) buffer w
        = ⟨.ok (), (filled, v)⟩ := by
  rcases Nat.lt_or_ge (bus.addressLimit w) (register.toNat + buffer.length) with hlt | hlimit
  · rw [bus.read_of_lt hlt] at h
    cases h
  rcases Nat.eq_zero_or_pos (bus.chunkSize w) with hzero | hchunk
  · rw [read, checkSpan_of_le hlimit] at h
    simp only [if_pos hzero] at h
    cases h
  · rw [bus.read_of_le hlimit hchunk] at h
    exact ⟨hchunk, hlimit, h⟩

end RegisterBus

end SensorLink

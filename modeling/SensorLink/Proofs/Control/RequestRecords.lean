/-
Requests and the records that hold them.

A record has room for more than a request: every flag but zero means a write, and three bytes
mean nothing.  Writing a request and reading it again gives the request; reading a record and
writing it again gives the one record in which the flag is zero or one and the padding is
zero.

* `Request.decode_encode` — a request is read back from its record;
* `Request.Laid` — where the fields of a request are in a record;
* `Request.normal` — a record with its flag and its padding in normal form;
* `Request.toList_encode_decode` — what is read and written again is in normal form;
* `Request.decode_eq_iff` — the records of one request;
* `Endpoint.dispatch_record` — a transfer carries out the request whose record it finds;
* `Request.record_exact` — all of this.
-/
import SensorLink.Bench.Recorder
import SensorLink.Control.Endpoint
import SensorLink.Proofs.Control.CallerMemory
import SensorLink.Proofs.Positional

namespace SensorLink

namespace Request

/-! ### Fields and their bytes -/

theorem directionOfFlag_flag (direction : Direction) :
    directionOfFlag (flag direction) = direction := by
  cases direction with
  | read => rfl
  | write => rfl

theorem flag_directionOfFlag (byte : UInt8) :
    flag (directionOfFlag byte) = if byte = 0 then 0 else 1 := by
  rw [directionOfFlag]
  split
  · rfl
  · rfl

theorem toList_encode (request : Request) :
    (encode request).toList
      = Bytes.toLittleEndian 2 request.length.toNat
        ++ Bytes.toLittleEndian 2 request.register.toNat
        ++ [flag request.direction, 0, 0, 0]
        ++ Bytes.toLittleEndian 8 request.buffer.toNat := rfl

/-- A record, byte by byte. -/
theorem toList_record (record : Vector UInt8 recordLength) :
    record.toList = [record[0], record[1], record[2], record[3], record[4], record[5], record[6],
      record[7], record[8], record[9], record[10], record[11], record[12], record[13],
      record[14], record[15]] := by
  obtain ⟨⟨bytes⟩, hsize⟩ := record
  match bytes, hsize with
  | [_, _, _, _, _, _, _, _, _, _, _, _, _, _, _, _], _ => rfl

theorem drop_record (record : Vector UInt8 recordLength) :
    record.toList.drop 8 = [record[8], record[9], record[10], record[11], record[12], record[13],
      record[14], record[15]] := by
  rw [toList_record]
  rfl

theorem getD_record (record : Vector UInt8 recordLength) :
    record.toList.getD 4 0 = record[4] := by
  rw [toList_record]
  rfl

theorem length_drop_record (record : Vector UInt8 recordLength) :
    (record.toList.drop 8).length = 8 := by
  rw [drop_record]
  rfl

theorem toNat_length_decode (record : Vector UInt8 recordLength) :
    (decode record).length.toNat = Bytes.ofLittleEndian [record[0], record[1]] :=
  UInt16.toNat_ofNat_of_lt' (Bytes.ofLittleEndian_lt _)

theorem toNat_register_decode (record : Vector UInt8 recordLength) :
    (decode record).register.toNat = Bytes.ofLittleEndian [record[2], record[3]] :=
  UInt16.toNat_ofNat_of_lt' (Bytes.ofLittleEndian_lt _)

theorem toNat_buffer_decode (record : Vector UInt8 recordLength) :
    (decode record).buffer.toNat = Bytes.ofLittleEndian (record.toList.drop 8) := by
  rw [drop_record]
  exact UInt64.toNat_ofNat_of_lt' (Bytes.ofLittleEndian_lt _)

/-- A request is read back from its record. -/
theorem decode_encode (request : Request) : decode (encode request) = request := by
  have hlength : (decode (encode request)).length = request.length := by
    refine UInt16.toNat_inj.mp ?_
    rw [toNat_length_decode]
    exact (Bytes.ofLittleEndian_toLittleEndian 2 _).trans
      (Nat.mod_eq_of_lt request.length.toNat_lt)
  have hregister : (decode (encode request)).register = request.register := by
    refine UInt16.toNat_inj.mp ?_
    rw [toNat_register_decode]
    exact (Bytes.ofLittleEndian_toLittleEndian 2 _).trans
      (Nat.mod_eq_of_lt request.register.toNat_lt)
  have hdirection : (decode (encode request)).direction = request.direction :=
    directionOfFlag_flag request.direction
  have hbuffer : (decode (encode request)).buffer = request.buffer := by
    refine UInt64.toNat_inj.mp ?_
    rw [toNat_buffer_decode]
    exact (Bytes.ofLittleEndian_toLittleEndian 8 _).trans
      (Nat.mod_eq_of_lt request.buffer.toNat_lt)
  calc decode (encode request)
      = ⟨(decode (encode request)).length, (decode (encode request)).register,
          (decode (encode request)).direction, (decode (encode request)).buffer⟩ := rfl
    _ = request := by rw [hlength, hregister, hdirection, hbuffer]

/-! ### Records of one request -/

/-- Where the fields of a request are in a record, all numbers least significant byte first. -/
structure Laid (record : Vector UInt8 recordLength) (request : Request) : Prop where
  length : request.length.toNat = record[0].toNat + 256 * record[1].toNat
  register : request.register.toNat = record[2].toNat + 256 * record[3].toNat
  direction : request.direction = .write ↔ record[4] ≠ 0
  buffer : request.buffer.toNat
    = ∑ i ∈ Finset.range 8, (record.toList.getD (8 + i) 0).toNat * 256 ^ i

theorem laid_decode (record : Vector UInt8 recordLength) : Laid record (decode record) where
  length := toNat_length_decode record
  register := toNat_register_decode record
  direction := by
    show directionOfFlag record[4] = .write ↔ _
    rw [directionOfFlag]
    split
    · rename_i hzero
      exact ⟨nofun, fun hne => absurd hzero hne⟩
    · rename_i hne
      exact ⟨fun _ => hne, fun _ => rfl⟩
  buffer := by
    rw [toNat_buffer_decode, Bytes.ofLittleEndian_eq_sum, length_drop_record]
    refine Finset.sum_congr rfl ?_
    intro i _
    rw [List.getD_eq_getElem?_getD, List.getElem?_drop, ← List.getD_eq_getElem?_getD]

/-- The bytes of a record with its flag and its padding in normal form. -/
def normal (bytes : Bytes) : Bytes :=
  bytes.take 4 ++ [if bytes.getD 4 0 = 0 then 0 else 1, 0, 0, 0] ++ bytes.drop 8

/-- The flag of a record is zero or one, and its padding is zero. -/
structure Normal (record : Vector UInt8 recordLength) : Prop where
  flag : record[4] = 0 ∨ record[4] = 1
  padding : record[5] = 0 ∧ record[6] = 0 ∧ record[7] = 0

/-- What is read from a record and written again is its normal form. -/
theorem toList_encode_decode (record : Vector UInt8 recordLength) :
    (encode (decode record)).toList = normal record.toList := by
  have htake : record.toList.take 4 = [record[0], record[1]] ++ [record[2], record[3]] := by
    rw [toList_record]
    rfl
  have hlength : Bytes.toLittleEndian 2 (decode record).length.toNat
      = [record[0], record[1]] := by
    rw [toNat_length_decode]
    exact Bytes.toLittleEndian_ofLittleEndian [record[0], record[1]]
  have hregister : Bytes.toLittleEndian 2 (decode record).register.toNat
      = [record[2], record[3]] := by
    rw [toNat_register_decode]
    exact Bytes.toLittleEndian_ofLittleEndian [record[2], record[3]]
  have hbuffer : Bytes.toLittleEndian 8 (decode record).buffer.toNat
      = record.toList.drop 8 := by
    have hback := Bytes.toLittleEndian_ofLittleEndian (record.toList.drop 8)
    rw [length_drop_record] at hback
    rw [toNat_buffer_decode, hback]
  have hflag : flag (decode record).direction = if record[4] = 0 then 0 else 1 :=
    flag_directionOfFlag record[4]
  rw [toList_encode, hlength, hregister, hbuffer, hflag, normal, getD_record, htake]

theorem normal_encode (request : Request) : Normal (encode request) where
  flag := by
    show flag request.direction = 0 ∨ flag request.direction = 1
    cases request.direction with
    | read => exact .inl rfl
    | write => exact .inr rfl
  padding := ⟨rfl, rfl, rfl⟩

/-- A record is written again as it was just if it is in normal form. -/
theorem encode_decode_eq_iff (record : Vector UInt8 recordLength) :
    encode (decode record) = record ↔ Normal record := by
  constructor
  · intro h
    rw [← h]
    exact normal_encode (decode record)
  · rintro ⟨hflag, hfive, hsix, hseven⟩
    have hflag : (if record[4] = 0 then 0 else 1 : UInt8) = record[4] := by
      rcases hflag with hzero | hone
      · rw [hzero]
        rfl
      · rw [hone]
        rfl
    refine Vector.toList_inj.mp ?_
    rw [toList_encode_decode, normal, getD_record, hflag, toList_record record, hfive, hsix,
      hseven]
    rfl

theorem encode_injective : Function.Injective encode :=
  Function.LeftInverse.injective decode_encode

theorem normalFlag_eq_iff (flag other : UInt8) :
    (if flag = 0 then 0 else 1 : UInt8) = (if other = 0 then 0 else 1) ↔
      (flag = 0 ↔ other = 0) := by
  by_cases hzero : flag = 0
  · by_cases hzero' : other = 0
    · simp [hzero, hzero']
    · simp [hzero, hzero']
  · by_cases hzero' : other = 0
    · simp [hzero, hzero']
    · simp [hzero, hzero']

theorem normal_eq_iff (record other : Vector UInt8 recordLength) :
    normal record.toList = normal other.toList ↔
      record.toList.take 4 = other.toList.take 4 ∧
        record.toList.drop 8 = other.toList.drop 8 ∧ (record[4] = 0 ↔ other[4] = 0) := by
  rw [normal, normal, getD_record, getD_record, ← normalFlag_eq_iff]
  constructor
  · intro h
    obtain ⟨hfront, hdrop⟩ := List.append_inj h (by simp)
    obtain ⟨htake, hmiddle⟩ := List.append_inj hfront (by simp)
    exact ⟨htake, hdrop, List.head_eq_of_cons_eq hmiddle⟩
  · rintro ⟨htake, hdrop, hflag⟩
    rw [htake, hdrop, hflag]

/-- Two records hold one request just if they differ in nothing but the padding and in which
flag stands for a write. -/
theorem decode_eq_iff (record other : Vector UInt8 recordLength) :
    decode record = decode other ↔
      record.toList.take 4 = other.toList.take 4 ∧
        record.toList.drop 8 = other.toList.drop 8 ∧ (record[4] = 0 ↔ other[4] = 0) := by
  rw [← normal_eq_iff, ← toList_encode_decode, ← toList_encode_decode, Vector.toList_inj,
    encode_injective.eq_iff]

end Request

/-! ### Records in caller memory -/

namespace Endpoint

variable {β μ ε ι ρ : Type} {boundary : Boundary μ} {memory : μ → Contents}
  {Grants : μ → UInt64 → Nat → Prop}

/-- A transfer whose argument is the address of a record carries out the request of the
record. -/
theorem dispatch_record (bridge : Bridge ι ρ) (hboundary : boundary.Honors memory Grants)
    (bus : RegisterBus β ε) (request : Request) {argument : UInt64} (waiter : ι)
    (cancelled : Bool) (endpoint : Endpoint ρ) (b : β) {u : μ}
    (hgranted : Grants u argument Request.recordLength)
    (hplaced : (memory u).read argument.toNat Request.recordLength
      = (Request.encode request).toList) :
    ∃ v, (boundary.copyIn argument Request.recordLength u).2 = v ∧ memory v = memory u ∧
      dispatch bridge (bus.beside μ) (boundary.after β) Command.transfer.number argument waiter
          cancelled endpoint (b, u)
        = ((execute (bus.beside μ) (boundary.after β) request endpoint.staging (b, v)).map
            fun _ => .done).mapWorld fun p => (⟨p.1, endpoint.readiness⟩, p.2) := by
  obtain ⟨answer, v, hcopy, hsame, _, ⟨record, rfl, hrecord⟩ | ⟨_, _, hdenied⟩⟩ :=
    hboundary.copyIn argument Request.recordLength u
  · have hencode : record = Request.encode request :=
      Vector.toList_inj.mp (hrecord.trans hplaced)
    refine ⟨v, by rw [hcopy], hsame, ?_⟩
    rw [dispatch_transfer]
    simp only [transfer, Boundary.copyIn_after hcopy, hencode, Request.decode_encode]
  · exact absurd hgranted hdenied

end Endpoint

namespace Request

/-- Requests and records are the same but for what a record has room for beyond a request: a
request is read back from its record, and the record of what was read from a record is its
normal form, so that exactly the records in normal form are read and written back, and
records of one request differ in nothing that is normalised.  A transfer that finds the record
of a request in caller memory carries out that request. -/
theorem record_exact :
    (∀ request : Request, decode (encode request) = request ∧ Normal (encode request)) ∧
      (∀ record, Laid record (decode record)) ∧
      (∀ record, (encode (decode record)).toList = normal record.toList) ∧
      (∀ record, encode (decode record) = record ↔ Normal record) ∧
      (∀ record other, decode record = decode other ↔
        record.toList.take 4 = other.toList.take 4 ∧
          record.toList.drop 8 = other.toList.drop 8 ∧ (record[4] = 0 ↔ other[4] = 0)) ∧
      ∀ {β μ ε ι ρ : Type} {boundary : Boundary μ} {memory : μ → Contents}
        {Grants : μ → UInt64 → Nat → Prop}, boundary.Honors memory Grants →
        ∀ (bridge : Bridge ι ρ) (bus : RegisterBus β ε) (request : Request)
          (argument : UInt64) (waiter : ι) (cancelled : Bool) (endpoint : Endpoint ρ) (b : β)
          (u : μ),
          Grants u argument 16 → (memory u).read argument.toNat 16 = (encode request).toList →
          ∃ v, (boundary.copyIn argument 16 u).2 = v ∧ memory v = memory u ∧
            Endpoint.dispatch bridge (bus.beside μ) (boundary.after β) Command.transfer.number
                argument waiter cancelled endpoint (b, u)
              = ((Endpoint.execute (bus.beside μ) (boundary.after β) request endpoint.staging
                  (b, v)).map fun _ => .done).mapWorld
                    fun p => (⟨p.1, endpoint.readiness⟩, p.2) := by
  refine ⟨?_, laid_decode, toList_encode_decode, encode_decode_eq_iff, decode_eq_iff, ?_⟩
  · intro request
    exact ⟨decode_encode request, normal_encode request⟩
  · intro β μ ε ι ρ boundary memory Grants hboundary bridge bus request argument waiter cancelled
      endpoint b u hgranted hplaced
    exact Endpoint.dispatch_record bridge hboundary bus request waiter cancelled endpoint b hgranted
      hplaced

open Bench in
/-- A write of two bytes that lie right behind their record, one byte in each call. -/
theorem record_exact_placed :
    let request : Request := ⟨2, 0x20, .write, 0x1010⟩
    let window : Window := ⟨0x1000, ((encode request).toList ++ [7, 9]).toArray⟩
    let recorder : Recorder := { limit := 1, registers := .zero }
    let run := Endpoint.dispatch Readiness.bridge (Recorder.registerBus.beside Window)
      (Window.boundary.after Recorder) Command.transfer.number 0x1000 0 false
      (⟨Scratch.zero _, .idle⟩ : Endpoint (Readiness Nat)) (recorder, window)
    run.outcome = .ok .done ∧ run.world.2.1.log = #[⟨.write, 0x20, 1⟩, ⟨.write, 0x21, 1⟩] := by
  intro request window recorder run
  obtain ⟨_, _, _, _, _, hdispatch⟩ := record_exact
  obtain ⟨v, rfl, _, hrun⟩ := hdispatch Window.honors_boundary Readiness.bridge
    Recorder.registerBus request 0x1000 0 false
    (⟨Scratch.zero _, .idle⟩ : Endpoint (Readiness Nat)) recorder window (by decide) (by decide)
  simp only [run, hrun]
  decide +kernel

end Request

end SensorLink

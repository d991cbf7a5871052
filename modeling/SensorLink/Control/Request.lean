/-
The transfer request that a caller places in its memory.

A request is a record of sixteen bytes, all numbers little endian:

    0   length of the transfer       2 bytes
    2   first register               2 bytes
    4   flag: zero reads, else write 1 byte
    5   padding, written as zero     3 bytes
    8   address of the buffer        8 bytes

* `Request` — a request;
* `Request.encode`, `Request.decode` — between requests and records.
-/
import SensorLink.Register.Access

namespace SensorLink

/-- A request to move bytes between registers and caller memory. -/
structure Request where
  length : UInt16
  register : UInt16
  direction : Direction
  /-- Where the bytes are in caller memory. -/
  buffer : UInt64
  deriving DecidableEq, Repr

namespace Request

/-- The number of bytes in a record. -/
def recordLength : Nat := 16

/-- The flag that tells a write from a read. -/
def flag : Direction → UInt8
  | .read => 0
  | .write => 1

/-- The direction that a flag stands for. -/
def directionOfFlag (flag : UInt8) : Direction :=
  if flag = 0 then .read else .write

/-- The request in a record. -/
def decode (record : Vector UInt8 recordLength) : Request where
  length := UInt16.ofNat (Bytes.ofLittleEndian [record[0], record[1]])
  register := UInt16.ofNat (Bytes.ofLittleEndian [record[2], record[3]])
  direction := directionOfFlag record[4]
  buffer := UInt64.ofNat (Bytes.ofLittleEndian
    [record[8], record[9], record[10], record[11], record[12], record[13], record[14], record[15]])

/-- The record of a request. -/
def encode (request : Request) : Vector UInt8 recordLength :=
  ⟨(Bytes.toLittleEndian 2 request.length.toNat ++ Bytes.toLittleEndian 2 request.register.toNat
      ++ [flag request.direction, 0, 0, 0]
      ++ Bytes.toLittleEndian 8 request.buffer.toNat).toArray, by
    simp [recordLength]⟩

end Request

end SensorLink

/-
Fixed-size scratch buffers.

A transfer assembles its bytes at the front of such a buffer; what earlier
transfers left behind it stays there.

* `Scratch` — a buffer of a fixed number of bytes;
* `Scratch.put` — overwrites the front;
* `front_put` — the front just written is what comes out again;
* `front_put_of_le` — and nothing of what was there before;
* `put_front` — a front that is put back changes nothing.
-/
import SensorLink.Bytes

namespace SensorLink

/-- A buffer that always holds `size` bytes. -/
structure Scratch (size : Nat) where
  bytes : Bytes
  length_bytes : bytes.length = size

namespace Scratch

variable {size : Nat}

/-- A cleared buffer. -/
def zero (size : Nat) : Scratch size :=
  ⟨List.replicate size 0, List.length_replicate⟩

/-- Overwrites the front with `data`; bytes of it past the end are dropped. -/
def put (scratch : Scratch size) (data : Bytes) : Scratch size :=
  ⟨(data ++ scratch.bytes.drop data.length).take size, by
    have := scratch.length_bytes
    simp only [List.length_take, List.length_append, List.length_drop]
    omega⟩

/-- The first `count` bytes. -/
def front (scratch : Scratch size) (count : Nat) : Bytes :=
  scratch.bytes.take count

theorem length_front (scratch : Scratch size) {count : Nat} (h : count ≤ size) :
    (scratch.front count).length = count := by
  have := scratch.length_bytes
  simp only [front, List.length_take]
  omega

/-- Whatever was behind `data` before, as much of the front as `data` reaches is its own. -/
theorem front_put_of_le (scratch : Scratch size) {data : Bytes} {count : Nat}
    (h : min count size ≤ data.length) :
    (scratch.put data).front count = data.take (min count size) := by
  rw [front, put, List.take_take, List.take_append_of_le_length h]

theorem front_put (scratch : Scratch size) {data : Bytes} (h : data.length ≤ size) :
    (scratch.put data).front data.length = data := by
  simp only [front, put, List.take_take, Nat.min_eq_left h, List.take_left']

theorem front_put_of_length (scratch : Scratch size) {data : Bytes} {count : Nat}
    (hcount : data.length = count) (h : count ≤ size) : (scratch.put data).front count = data := by
  subst hcount
  exact scratch.front_put h

@[simp] theorem put_front (scratch : Scratch size) (count : Nat) :
    scratch.put (scratch.front count) = scratch := by
  obtain ⟨bytes, rfl⟩ := scratch
  have hbytes : bytes.take count ++ bytes.drop (bytes.take count).length = bytes := by
    rcases Nat.le_total count bytes.length with h | h
    · rw [List.length_take_of_le h, List.take_append_drop]
    · rw [List.take_of_length_le h, List.drop_length, List.append_nil]
  simp only [put, front, hbytes, List.take_length]

end Scratch

end SensorLink

/-
The boundary to the memory of a caller.

The endpoint never touches caller memory itself: it asks the boundary to check a
range and to copy bytes in and out.  A copy happens whole or not at all.

* `CopyError` — the range that could not be copied;
* `Boundary` — the interface, with the contract `CopiesWhole` of a copy in;
* `Boundary.copyIn` — a copy into a new buffer, and what it says about any other buffer:
  `copyInto_of_ok`, `copyInto_of_error`;
* `Window` — caller memory that is one range of bytes;
* `Window.extent` — where a range is in the window, by sums and differences of words;
* `Window.check`, `copyInto`, `copyOut` — the calls, which trap if a range leaves the bytes;
* `Window.settled_copyInto`, `settled_copyOut` — no range does;
* `Window.boundary` — the window as a boundary;
* `Window.covers_iff` — what a window accepts, in exact integers.
-/
import SensorLink.Bytes.Store
import SensorLink.Count
import SensorLink.Text.Hex

namespace SensorLink

/-- A range of caller memory that could not be copied. -/
structure CopyError where
  address : UInt64
  length : Nat
  deriving DecidableEq, Repr

/-- The error in words. -/
def CopyError.message (e : CopyError) : String :=
  s!"cannot copy {e.length} bytes at caller address 0x{hexText 1 e.address.toNat}"

/-- A copy in of `length` bytes is made whole or not at all: it fills its destination,
whatever that held before, or leaves it as it was. -/
inductive CopiesWhole {ω : Type} (copy : Bytes → Except CopyError Unit × (Bytes × ω))
    (length : Nat) : Prop where
  | filled (bytes : Bytes) (w : ω) (hlength : bytes.length = length)
      (hcopy : ∀ destination, destination.length = length → copy destination = (.ok (), (bytes, w)))
  | refused (e : CopyError) (w : ω)
      (hcopy : ∀ destination, destination.length = length →
        copy destination = (.error e, (destination, w)))

/-- Copies between the caller's memory and ours. -/
structure Boundary (ω : Type) where
  /-- Whether a range could be copied. -/
  check : UInt64 → Nat → ω → Except CopyError Unit × ω
  /-- Fills a destination from a range as long as it is. -/
  copyInto : UInt64 → Bytes → ω → Except CopyError Unit × (Bytes × ω)
  /-- Overwrites a range. -/
  copyOut : UInt64 → Bytes → ω → Except CopyError Unit × ω
  copiesWhole : ∀ address length w, CopiesWhole (fun bytes => copyInto address bytes w) length

/-- The boundary in a world that has another part in front of it. -/
def Boundary.after {ω : Type} (boundary : Boundary ω) (σ : Type) : Boundary (σ × ω) where
  check address length := fun (rest, w) =>
    match boundary.check address length w with
    | (answer, w) => (answer, (rest, w))
  copyInto address destination := fun (rest, w) =>
    match boundary.copyInto address destination w with
    | (answer, (destination, w)) => (answer, (destination, (rest, w)))
  copyOut address data := fun (rest, w) =>
    match boundary.copyOut address data w with
    | (answer, w) => (answer, (rest, w))
  copiesWhole address length := fun (rest, w) => by
    cases boundary.copiesWhole address length w with
    | filled bytes v hlength hcopy =>
      refine .filled bytes (rest, v) hlength fun destination hdestination => ?_
      simp only [hcopy destination hdestination]
    | refused e v hcopy =>
      refine .refused e (rest, v) fun destination hdestination => ?_
      simp only [hcopy destination hdestination]

namespace Boundary

variable {ω σ : Type} {boundary : Boundary ω} {address : UInt64} {w v : ω}

theorem length_copyInto (boundary : Boundary ω) (address : UInt64) (destination : Bytes) (w : ω) :
    (boundary.copyInto address destination w).2.1.length = destination.length := by
  cases boundary.copiesWhole address destination.length w with
  | filled bytes v hlength hcopy => rw [hcopy destination rfl, hlength]
  | refused e v hcopy => rw [hcopy destination rfl]

/-- Fetches a range into a new buffer. -/
def copyIn (boundary : Boundary ω) (address : UInt64) (length : Nat) (w : ω) :
    Except CopyError (Vector UInt8 length) × ω :=
  let copy := boundary.copyInto address (List.replicate length 0) w
  (copy.1.map fun _ => ⟨copy.2.1.toArray, by
      rw [List.size_toArray, boundary.length_copyInto, List.length_replicate]⟩,
    copy.2.2)

theorem copyIn_of_copyInto {length : Nat} {answer : Except CopyError Unit} {bytes : Bytes}
    (hcopy : boundary.copyInto address (List.replicate length 0) w = (answer, (bytes, v)))
    (hlength : bytes.length = length) :
    boundary.copyIn address length w
      = (answer.map fun _ => ⟨bytes.toArray, by rw [List.size_toArray, hlength]⟩, v) := by
  simp only [copyIn, hcopy]

theorem copyIn_of_filled {length : Nat} {bytes : Vector UInt8 length}
    (hcopy : boundary.copyInto address (List.replicate length 0) w = (.ok (), (bytes.toList, v))) :
    boundary.copyIn address length w = (.ok bytes, v) :=
  copyIn_of_copyInto hcopy bytes.length_toList

theorem copyIn_of_refused {length : Nat} {e : CopyError} {bytes : Bytes}
    (hcopy : boundary.copyInto address (List.replicate length 0) w = (.error e, (bytes, v))) :
    boundary.copyIn address length w = (.error e, v) := by
  have hlength := boundary.length_copyInto address (List.replicate length 0) w
  rw [hcopy, List.length_replicate] at hlength
  exact copyIn_of_copyInto hcopy hlength

/-- What is fetched does not depend on the buffer that it is fetched into. -/
theorem copyInto_of_ok {length : Nat} {bytes : Vector UInt8 length}
    (h : boundary.copyIn address length w = (.ok bytes, v)) {destination : Bytes}
    (hdestination : destination.length = length) :
    boundary.copyInto address destination w = (.ok (), (bytes.toList, v)) := by
  cases boundary.copiesWhole address length w with
  | filled filled u hlength hcopy =>
    rw [copyIn_of_copyInto (hcopy _ List.length_replicate) hlength] at h
    obtain ⟨hbytes, rfl⟩ := Prod.mk.inj h
    rw [hcopy destination hdestination, ← Except.ok.inj hbytes, Vector.toList_mk]
  | refused e u hcopy =>
    rw [copyIn_of_refused (hcopy _ List.length_replicate)] at h
    cases (Prod.mk.inj h).1

/-- A refused copy leaves the buffer alone. -/
theorem copyInto_of_error {length : Nat} {e : CopyError}
    (h : boundary.copyIn address length w = (.error e, v)) {destination : Bytes}
    (hdestination : destination.length = length) :
    boundary.copyInto address destination w = (.error e, (destination, v)) := by
  cases boundary.copiesWhole address length w with
  | filled filled u hlength hcopy =>
    rw [copyIn_of_copyInto (hcopy _ List.length_replicate) hlength] at h
    cases (Prod.mk.inj h).1
  | refused cause u hcopy =>
    rw [copyIn_of_refused (hcopy _ List.length_replicate)] at h
    obtain ⟨hcause, rfl⟩ := Prod.mk.inj h
    rw [hcopy destination hdestination, Except.error.inj hcause]

theorem check_after {length : Nat} {answer : Except CopyError Unit}
    (h : boundary.check address length w = (answer, v)) (rest : σ) :
    (boundary.after σ).check address length (rest, w) = (answer, (rest, v)) := by
  simp only [after, h]

theorem copyIn_after {length : Nat} {answer : Except CopyError (Vector UInt8 length)}
    (h : boundary.copyIn address length w = (answer, v)) (rest : σ) :
    (boundary.after σ).copyIn address length (rest, w) = (answer, (rest, v)) := by
  exact congrArg (fun copy => (copy.1, (rest, copy.2))) h

theorem copyOut_after {data : Bytes} {answer : Except CopyError Unit}
    (h : boundary.copyOut address data w = (answer, v)) (rest : σ) :
    (boundary.after σ).copyOut address data (rest, w) = (answer, (rest, v)) := by
  simp only [after, h]

end Boundary

/-- Caller memory that holds the bytes from `base` on and nothing else. -/
structure Window where
  base : UInt64
  bytes : Store

namespace Window

/-- Whether `length` bytes from `address` on lie in the window.  An empty range
does, up to and including the end of the window. -/
def Covers (window : Window) (address : UInt64) (length : Nat) : Prop :=
  window.base ≤ address ∧ (address - window.base).toNat + length ≤ window.bytes.size

instance (window : Window) (address : UInt64) (length : Nat) :
    Decidable (window.Covers address length) :=
  inferInstanceAs (Decidable (_ ∧ _))

/-- Where an address is in the window. -/
def position (window : Window) (address : UInt64) : Nat :=
  (address - window.base).toNat

/-- A window accepts the ranges that lie in it, as exact integers. -/
theorem covers_iff (window : Window) (address : UInt64) (length : Nat) :
    window.Covers address length ↔
      window.base.toNat ≤ address.toNat ∧
        address.toNat + length ≤ window.base.toNat + window.bytes.size := by
  unfold Covers
  rw [UInt64.le_iff_toNat_le]
  refine and_congr_right fun h => ?_
  rw [UInt64.toNat_sub_of_le _ _ (UInt64.le_iff_toNat_le.mpr h)]
  omega

/-- The bytes of a range that the window covers. -/
def fetch (window : Window) (address : UInt64) (length : Nat)
    (h : window.Covers address length) : Vector UInt8 length :=
  ⟨(window.bytes.slice (window.position address) length).toArray, by
    simp only [List.size_toArray]
    exact Store.length_slice h.2⟩

/-- The window with a range overwritten. -/
def store (window : Window) (address : UInt64) (data : Bytes) : Window :=
  ⟨window.base, window.bytes.splice (window.position address) data⟩

/-- The part of the window where a range of caller memory is. -/
def extent (window : Window) (address : UInt64) (length : Nat) : Except CopyError Extent :=
  match subtractWords? address window.base with
  | none => .error ⟨address, length⟩
  | some start =>
    match endWithin? window.bytes.size start.toNat length with
    | none => .error ⟨address, length⟩
    | some stop => .ok ⟨start.toNat, stop⟩

theorem extent_of_covers {window : Window} {address : UInt64} {length : Nat}
    (h : window.Covers address length) :
    window.extent address length
      = .ok ⟨window.position address, window.position address + length⟩ := by
  have hstart : subtractWords? address window.base = some (address - window.base) := if_pos h.1
  simp only [extent, hstart, endWithin?_eq_some_iff.mpr ⟨rfl, h.2⟩]
  rfl

theorem extent_of_not_covers {window : Window} {address : UInt64} {length : Nat}
    (h : ¬window.Covers address length) :
    window.extent address length = .error ⟨address, length⟩ := by
  unfold extent
  split
  · rfl
  · rename_i start hstart
    split
    · rfl
    · rename_i stop hstop
      have hsum := subtractWords?_eq_some_iff.mp hstart
      obtain ⟨rfl, hle⟩ := endWithin?_eq_some_iff.mp hstop
      exact absurd ((window.covers_iff address length).mpr ⟨by omega, by omega⟩) h

/-- The extent of a range that a window covers lies in the window, and is as long as the range. -/
theorem within_of_covers {window : Window} {address : UInt64} {length : Nat}
    (h : window.Covers address length) :
    Extent.Within ⟨window.position address, window.position address + length⟩ window.bytes ∧
      Extent.length ⟨window.position address, window.position address + length⟩ = length :=
  ⟨⟨Nat.le_add_right .., h.2⟩, Nat.add_sub_cancel_left ..⟩

/-- What a window accepts ends in its bytes, and is as long as the range. -/
theorem extent_within (window : Window) {address : UInt64} {length : Nat} {extent : Extent}
    (h : window.extent address length = .ok extent) :
    extent.Within window.bytes ∧ extent.length = length := by
  by_cases hcovers : window.Covers address length
  · rw [extent_of_covers hcovers] at h
    obtain rfl := Except.ok.inj h
    exact within_of_covers hcovers
  · rw [extent_of_not_covers hcovers] at h
    contradiction

/-- Accepts the ranges that have an extent. -/
def check (address : UInt64) (length : Nat) (window : Window) : Except CopyError Unit :=
  (window.extent address length).map fun _ => ()

/-- Fills `destination` from a range as long as it is. -/
def copyInto (address : UInt64) (destination : Bytes) (window : Window) :
    Run Bytes CopyError Unit :=
  match window.extent address destination.length with
  | .error e => ⟨.error e, destination⟩
  | .ok extent => window.bytes.copyTo extent destination

/-- Overwrites a range. -/
def copyOut (address : UInt64) (data : Bytes) (window : Window) : Run Window CopyError Unit :=
  match window.extent address data.length with
  | .error e => ⟨.error e, window⟩
  | .ok extent => (window.bytes.copyFrom extent data).mapWorld (Window.mk window.base)

section Calls

variable {window : Window} {address : UInt64} {length : Nat} {data destination : Bytes}

theorem copyInto_of_covers (h : window.Covers address length)
    (hdestination : destination.length = length) :
    window.copyInto address destination = ⟨.ok (), (window.fetch address length h).toList⟩ := by
  subst hdestination
  obtain ⟨hwithin, hlength⟩ := within_of_covers h
  simp only [copyInto, extent_of_covers h, Store.copyTo, if_pos (And.intro hwithin hlength)]
  rw [hlength, fetch, Vector.toList_mk]

theorem copyInto_of_not_covers (h : ¬window.Covers address destination.length) :
    window.copyInto address destination
      = ⟨.error ⟨address, destination.length⟩, destination⟩ := by
  simp only [copyInto, extent_of_not_covers h]

theorem copyOut_of_covers (h : window.Covers address data.length) :
    window.copyOut address data = ⟨.ok (), window.store address data⟩ := by
  simp only [copyOut, extent_of_covers h, Store.copyFrom, if_pos (within_of_covers h)]
  rfl

theorem copyOut_of_not_covers (h : ¬window.Covers address data.length) :
    window.copyOut address data = ⟨.error ⟨address, data.length⟩, window⟩ := by
  simp only [copyOut, extent_of_not_covers h]

/-- No range that a window accepts is cut from outside of its bytes. -/
theorem settled_copyInto (window : Window) (address : UInt64) (destination : Bytes) :
    (window.copyInto address destination).outcome.Settled := by
  by_cases h : window.Covers address destination.length
  · rw [copyInto_of_covers h rfl]
    trivial
  · rw [copyInto_of_not_covers h]
    trivial

theorem settled_copyOut (window : Window) (address : UInt64) (data : Bytes) :
    (window.copyOut address data).outcome.Settled := by
  by_cases h : window.Covers address data.length
  · rw [copyOut_of_covers h]
    trivial
  · rw [copyOut_of_not_covers h]
    trivial

end Calls

/-- The window as a boundary: all three calls accept the ranges in the window. -/
def boundary : Boundary Window where
  check address length window := (window.check address length, window)
  copyInto address destination window :=
    let run := window.copyInto address destination
    (run.outcome.toExcept (window.settled_copyInto address destination), (run.world, window))
  copyOut address data window :=
    let run := window.copyOut address data
    (run.outcome.toExcept (window.settled_copyOut address data), run.world)
  copiesWhole address length window := by
    by_cases h : window.Covers address length
    · refine .filled _ window (window.fetch address length h).length_toList ?_
      intro destination hdestination
      have hrun := copyInto_of_covers h hdestination
      exact Prod.ext (Outcome.toExcept_of_ok (congrArg Run.outcome hrun) _)
        (congrArg (·.world, window) hrun)
    · refine .refused ⟨address, length⟩ window ?_
      rintro destination rfl
      have hrun := copyInto_of_not_covers h
      exact Prod.ext (Outcome.toExcept_of_error (congrArg Run.outcome hrun) _)
        (congrArg (·.world, window) hrun)

section Boundary

variable {window : Window} {address : UInt64} {length : Nat} {data : Bytes}

theorem boundary_check_of_covers (h : window.Covers address length) :
    boundary.check address length window = (.ok (), window) := by
  simp only [boundary, check, extent_of_covers h, Except.map]

theorem boundary_check_of_not_covers (h : ¬window.Covers address length) :
    boundary.check address length window = (.error ⟨address, length⟩, window) := by
  simp only [boundary, check, extent_of_not_covers h, Except.map]

theorem boundary_copyIn_of_covers (h : window.Covers address length) :
    boundary.copyIn address length window = (.ok (window.fetch address length h), window) := by
  have hrun := copyInto_of_covers h (List.length_replicate (a := (0 : UInt8)))
  have hcopy : boundary.copyInto address (List.replicate length 0) window
      = (.ok (), ((window.fetch address length h).toList, window)) :=
    Prod.ext (Outcome.toExcept_of_ok (congrArg Run.outcome hrun) _)
      (congrArg (·.world, window) hrun)
  exact Boundary.copyIn_of_filled hcopy

theorem boundary_copyIn_of_not_covers (h : ¬window.Covers address length) :
    boundary.copyIn address length window = (.error ⟨address, length⟩, window) := by
  have hlength : (List.replicate length (0 : UInt8)).length = length := List.length_replicate
  have hrun := copyInto_of_not_covers (hlength.symm ▸ h)
  have hcopy : boundary.copyInto address (List.replicate length 0) window
      = (.error ⟨address, (List.replicate length (0 : UInt8)).length⟩,
        (List.replicate length 0, window)) :=
    Prod.ext (Outcome.toExcept_of_error (congrArg Run.outcome hrun) _)
      (congrArg (·.world, window) hrun)
  rw [Boundary.copyIn_of_refused hcopy, hlength]

theorem boundary_copyOut_of_covers (h : window.Covers address data.length) :
    boundary.copyOut address data window = (.ok (), window.store address data) := by
  have hrun := copyOut_of_covers h
  exact Prod.ext (Outcome.toExcept_of_ok (congrArg Run.outcome hrun) _)
    (congrArg Run.world hrun)

theorem boundary_copyOut_of_not_covers (h : ¬window.Covers address data.length) :
    boundary.copyOut address data window = (.error ⟨address, data.length⟩, window) := by
  have hrun := copyOut_of_not_covers h
  exact Prod.ext (Outcome.toExcept_of_error (congrArg Run.outcome hrun) _)
    (congrArg Run.world hrun)

end Boundary

end Window

end SensorLink

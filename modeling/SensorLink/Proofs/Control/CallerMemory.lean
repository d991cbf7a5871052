/-
Boundaries to caller memory that copy a range as a whole or not at all.

* `Boundary.Honors` — the contract of the copies;
* `Boundary.whole` — caller memory with a byte at every address honors it;
* `Window.honors_boundary` — a window of caller memory honors it, and no copy of a
  range inside of the window fails;
* `Window.Holds` — the addresses that a window holds, as exact integers;
* `Request.ofContents` — the request in caller memory.
-/
import SensorLink.Control.Request
import SensorLink.Proofs.Contents

namespace SensorLink

/-- Caller memory that holds `memory u` in the world `u`.  A copy that succeeds
moves the whole range; one that fails moves nothing, and is of a range that is
not granted. -/
structure Boundary.Honors {μ : Type} (boundary : Boundary μ) (memory : μ → Contents)
    (Grants : μ → UInt64 → Nat → Prop) : Prop where
  check : ∀ address length u, ∃ answer v,
    boundary.check address length u = (answer, v) ∧ memory v = memory u ∧ Grants v = Grants u
  copyIn : ∀ address length u, ∃ answer v,
    boundary.copyIn address length u = (answer, v) ∧ memory v = memory u ∧ Grants v = Grants u ∧
      ((∃ bytes, answer = .ok bytes ∧ bytes.toList = (memory u).read address.toNat length) ∨
        ∃ e, answer = .error e ∧ ¬Grants u address length)
  copyOut : ∀ address data u, ∃ answer v,
    boundary.copyOut address data u = (answer, v) ∧ Grants v = Grants u ∧
      (answer = .ok () ∧ memory v = (memory u).patch address.toNat data ∨
        ∃ e, answer = .error e ∧ memory v = memory u ∧ ¬Grants u address data.length)

/-- Caller memory every range of which can be copied. -/
def Boundary.whole : Boundary Contents where
  check _ _ memory := (.ok (), memory)
  copyInto address destination memory :=
    (.ok (), (memory.read address.toNat destination.length, memory))
  copyOut address data memory := (.ok (), memory.patch address.toNat data)
  copiesWhole address length memory := by
    refine .filled (memory.read address.toNat length) memory (memory.length_read ..) ?_
    rintro destination rfl
    rfl

theorem Boundary.honors_whole : whole.Honors (fun memory => memory) fun _ _ _ => True where
  check _ _ _ := ⟨_, _, rfl, rfl, rfl⟩
  copyIn address length memory := by
    have hcopy : whole.copyInto address (List.replicate length 0) memory
        = (.ok (), (memory.read address.toNat length, memory)) := by
      simp only [whole, List.length_replicate]
    exact ⟨_, _, copyIn_of_copyInto hcopy (memory.length_read ..), rfl, rfl, .inl ⟨_, rfl, rfl⟩⟩
  copyOut _ _ _ := ⟨_, _, rfl, rfl, .inl ⟨rfl, rfl⟩⟩

namespace Window

theorem covers_store (window : Window) (address : UInt64) (data : Bytes) :
    (window.store address data).Covers = window.Covers := by
  funext other length
  rw [Covers, Covers, base_store, size_store]

theorem honors_boundary : boundary.Honors contents Covers where
  check address length window := by
    by_cases h : window.Covers address length
    · exact ⟨_, _, boundary_check_of_covers h, rfl, rfl⟩
    · exact ⟨_, _, boundary_check_of_not_covers h, rfl, rfl⟩
  copyIn address length window := by
    by_cases h : window.Covers address length
    · exact ⟨_, _, boundary_copyIn_of_covers h, rfl, rfl, .inl ⟨_, rfl, window.toList_fetch h⟩⟩
    · exact ⟨_, _, boundary_copyIn_of_not_covers h, rfl, rfl, .inr ⟨_, rfl, h⟩⟩
  copyOut address data window := by
    by_cases h : window.Covers address data.length
    · exact ⟨_, _, boundary_copyOut_of_covers h, window.covers_store address data,
        .inl ⟨rfl, window.contents_store h⟩⟩
    · exact ⟨_, _, boundary_copyOut_of_not_covers h, rfl, .inr ⟨_, rfl, rfl, h⟩⟩

/-- The `length` bytes from `address` on are bytes of the window. -/
def Holds (window : Window) (address length : Nat) : Prop :=
  window.base.toNat ≤ address ∧ address + length ≤ window.base.toNat + window.bytes.size

theorem covers_iff_holds (window : Window) (address : UInt64) (length : Nat) :
    window.Covers address length ↔ window.Holds address.toNat length :=
  window.covers_iff address length

/-- The check accepts no other ranges. -/
theorem holds_of_check {window : Window} {address : UInt64} {length : Nat}
    (h : (boundary.check address length window).1 = .ok ()) :
    window.Holds address.toNat length := by
  refine (window.covers_iff_holds address length).mp ?_
  by_cases hcovers : window.Covers address length
  · exact hcovers
  · rw [boundary_check_of_not_covers hcovers] at h
    cases h

end Window

/-- The request whose record is at `address` of caller memory. -/
def Request.ofContents (memory : Contents) (address : Nat) : Request :=
  Request.decode ⟨(memory.read address Request.recordLength).toArray, by
    rw [List.size_toArray, Contents.length_read]⟩

theorem Request.decode_fetch (window : Window) {address : UInt64}
    (h : window.Covers address Request.recordLength) :
    Request.decode (window.fetch address Request.recordLength h)
      = Request.ofContents window.contents address.toNat := by
  refine congrArg Request.decode (Vector.toList_inj.mp ?_)
  rw [window.toList_fetch h, Vector.toList_mk]

end SensorLink

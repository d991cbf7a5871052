/-
A window of caller memory as a byte store, over any calls at its boundary.

Checks, copies to us and copies to the caller may come in any order, overlap, and name any
addresses and lengths.  A call that is refused leaves everything as it was, so what a copy
brings depends on nothing but the copies to the caller that went well before it.

* `Boundary.Call`, `Boundary.Exchange` — a call with the buffer of the one who makes it, and
  what has become of both;
* `Boundary.lastStored?` — the byte that was stored last at an address;
* `Window.run_of_covers`, `Window.run_of_not_covers` — what a single call does;
* `Window.contents_runAll` — what a window holds after any calls;
* `Window.Recalls` — what a store of bytes promises for a call;
* `Window.recalls_runAll` — a window keeps the promise after any calls.
-/
import SensorLink.Proofs.Control.CallerMemory

namespace SensorLink

namespace Boundary

variable {ω : Type}

/-- A call at the boundary, with the buffer of the one who makes it. -/
inductive Call where
  | check (address : UInt64) (length : Nat)
  | copyIn (address : UInt64) (destination : Bytes)
  | copyOut (address : UInt64) (source : Bytes)

namespace Call

/-- Where the range of a call starts. -/
def address : Call → UInt64
  | check address _ => address
  | copyIn address _ => address
  | copyOut address _ => address

/-- How many bytes the range of a call has; a copy moves as many as its buffer holds. -/
def length : Call → Nat
  | check _ length => length
  | copyIn _ destination => destination.length
  | copyOut _ source => source.length

/-- The buffer that is handed over with a call; a check has none. -/
def buffer : Call → Bytes
  | check _ _ => []
  | copyIn _ destination => destination
  | copyOut _ source => source

end Call

/-- A call that was made: its answer, and what its buffer holds now. -/
structure Exchange where
  call : Call
  answer : Except CopyError Unit
  buffer : Bytes

/-- Makes a call.  A copy to us writes to its buffer. -/
def Call.run (boundary : Boundary ω) (call : Call) (w : ω) : Exchange × ω :=
  match call with
  | .check address length =>
    match boundary.check address length w with
    | (answer, w) => (⟨call, answer, []⟩, w)
  | .copyIn address destination =>
    match boundary.copyInto address destination w with
    | (answer, (destination, w)) => (⟨call, answer, destination⟩, w)
  | .copyOut address source =>
    match boundary.copyOut address source w with
    | (answer, w) => (⟨call, answer, source⟩, w)

/-- Makes calls in order, and notes what has become of them. -/
def runAll (boundary : Boundary ω) : List Call → ω → List Exchange × ω
  | [], w => ([], w)
  | call :: calls, w =>
    match call.run boundary w with
    | (exchange, w) =>
      match runAll boundary calls w with
      | (history, w) => (exchange :: history, w)

/-- The byte that a call has stored at an address, if it has stored one there. -/
def Exchange.stored? (exchange : Exchange) (address : Nat) : Option UInt8 :=
  match exchange.call, exchange.answer with
  | .copyOut start source, .ok _ =>
    if start.toNat ≤ address then source[address - start.toNat]? else none
  | _, _ => none

/-- The byte that was stored last at an address. -/
def lastStored? (history : List Exchange) (address : Nat) : Option UInt8 :=
  history.reverse.findSome? fun exchange => exchange.stored? address

theorem lastStored?_cons (exchange : Exchange) (history : List Exchange) (address : Nat) :
    lastStored? (exchange :: history) address
      = (lastStored? history address).or (exchange.stored? address) := by
  rw [lastStored?, List.reverse_cons, List.findSome?_append, List.findSome?_singleton]
  rfl

end Boundary

namespace Window

open Boundary

/-! ### A single call -/

/-- What a call that is accepted leaves in the window. -/
def afterCall (window : Window) : Call → Window
  | .copyOut address source => window.store address source
  | _ => window

/-- What a call that is accepted leaves in its buffer. -/
def filled (window : Window) : Call → Bytes
  | .copyIn address destination => window.contents.read address.toNat destination.length
  | call => call.buffer

theorem run_of_covers {window : Window} {call : Call}
    (h : window.Covers call.address call.length) :
    call.run boundary window = (⟨call, .ok (), window.filled call⟩, window.afterCall call) := by
  cases call with
  | check address length =>
    have h : window.Covers address length := h
    simp only [Call.run, boundary_check_of_covers h]
    rfl
  | copyIn address destination =>
    have h : window.Covers address destination.length := h
    simp only [Call.run, copyInto_of_ok (boundary_copyIn_of_covers h) rfl, window.toList_fetch h]
    rfl
  | copyOut address source =>
    have h : window.Covers address source.length := h
    simp only [Call.run, boundary_copyOut_of_covers h]
    rfl

theorem run_of_not_covers {window : Window} {call : Call}
    (h : ¬window.Covers call.address call.length) :
    call.run boundary window
      = (⟨call, .error ⟨call.address, call.length⟩, call.buffer⟩, window) := by
  cases call with
  | check address length =>
    have h : ¬window.Covers address length := h
    simp only [Call.run, boundary_check_of_not_covers h]
    rfl
  | copyIn address destination =>
    have h : ¬window.Covers address destination.length := h
    simp only [Call.run, copyInto_of_error (boundary_copyIn_of_not_covers h) rfl]
    rfl
  | copyOut address source =>
    have h : ¬window.Covers address source.length := h
    simp only [Call.run, boundary_copyOut_of_not_covers h]
    rfl

theorem call_run (window : Window) (call : Call) :
    (call.run boundary window).1.call = call := by
  by_cases h : window.Covers call.address call.length
  · rw [run_of_covers h]
  · rw [run_of_not_covers h]

/-- A call is accepted just if the window covers its range. -/
theorem answer_run (window : Window) (call : Call) :
    (call.run boundary window).1.answer
      = if window.Covers call.address call.length then .ok ()
        else .error ⟨call.address, call.length⟩ := by
  by_cases h : window.Covers call.address call.length
  · rw [run_of_covers h, if_pos h]
  · rw [run_of_not_covers h, if_neg h]

/-- No call moves the window or changes its size. -/
theorem covers_run (window : Window) (call : Call) :
    (call.run boundary window).2.Covers = window.Covers := by
  by_cases h : window.Covers call.address call.length
  · rw [run_of_covers h]
    cases call with
    | check => rfl
    | copyIn => rfl
    | copyOut address source => exact window.covers_store address source
  · rw [run_of_not_covers h]

/-- A call changes the bytes that it has stored and no others. -/
theorem contents_run (window : Window) (call : Call) (address : Nat) :
    (call.run boundary window).2.contents address
      = ((call.run boundary window).1.stored? address).getD (window.contents address) := by
  by_cases h : window.Covers call.address call.length
  · rw [run_of_covers h]
    cases call with
    | check => rfl
    | copyIn => rfl
    | copyOut start source =>
      have h : window.Covers start source.length := h
      simp only [afterCall, Exchange.stored?, window.contents_store h, Contents.patch]
      split
      · rfl
      · rfl
  · rw [run_of_not_covers h, Exchange.stored?]
    cases call with
    | check => rfl
    | copyIn => rfl
    | copyOut => rfl

/-! ### Any calls -/

theorem covers_runAll (calls : List Call) (window : Window) :
    (runAll boundary calls window).2.Covers = window.Covers := by
  induction calls generalizing window with
  | nil => rfl
  | cons call calls ih =>
    simp only [runAll]
    rw [ih, covers_run]

/-- After any calls a window holds at each address what was stored there last. -/
theorem contents_runAll (calls : List Call) (window : Window) (address : Nat) :
    (runAll boundary calls window).2.contents address
      = (lastStored? (runAll boundary calls window).1 address).getD
        (window.contents address) := by
  induction calls generalizing window with
  | nil => rfl
  | cons call calls ih =>
    simp only [runAll]
    rw [ih, contents_run, lastStored?_cons]
    cases lastStored? (runAll boundary calls (call.run boundary window).2).1 address with
    | none => rw [Option.none_or, Option.getD_none]
    | some byte => rw [Option.some_or, Option.getD_some, Option.getD_some]

/-- What a store that held `window` at first promises for a call, given what has become of
the calls before it. -/
structure Recalls (window : Window) (history : List Exchange) (before : Window)
    (exchange : Exchange) (after : Window) : Prop where
  /-- Accepted are the ranges that lie in the window, as exact integers. -/
  accepted_iff : exchange.answer = .ok () ↔
    window.base.toNat ≤ exchange.call.address.toNat ∧
      exchange.call.address.toNat - window.base.toNat + exchange.call.length
        ≤ window.bytes.size
  /-- Any other call on the same range would have been answered in the same way. -/
  agrees : ∀ other : Call, other.address = exchange.call.address →
    other.length = exchange.call.length →
    (other.run boundary before).1.answer = exchange.answer
  /-- A call that fails reports its range and changes nothing. -/
  refused : ∀ e, exchange.answer = .error e →
    e = ⟨exchange.call.address, exchange.call.length⟩ ∧
      exchange.buffer = exchange.call.buffer ∧ after = before
  /-- A copy to us brings at each place the byte that was stored there last, or the one that
  was there at first. -/
  fetched : ∀ address destination, exchange.call = .copyIn address destination →
    exchange.answer = .ok () → exchange.buffer.length = destination.length ∧
      ∀ i < destination.length, exchange.buffer[i]?
        = (lastStored? history (address.toNat + i)).or
          window.bytes[address.toNat + i - window.base.toNat]?
  /-- Only copies to the caller change the window. -/
  kept : (∀ address source, exchange.call ≠ .copyOut address source) → after = before

/-- Covered ranges are those of the first window, whatever was called since. -/
theorem covers_runAll_iff (calls : List Call) (window : Window) (address : UInt64)
    (length : Nat) :
    (runAll boundary calls window).2.Covers address length ↔
      window.base.toNat ≤ address.toNat ∧
        address.toNat - window.base.toNat + length ≤ window.bytes.size := by
  rw [covers_runAll, covers_iff]
  omega

/-- A byte of a covered range after any calls. -/
theorem getElem?_read_runAll (calls : List Call) {window : Window} {address : UInt64}
    {length i : Nat} (h : (runAll boundary calls window).2.Covers address length)
    (hi : i < length) :
    ((runAll boundary calls window).2.contents.read address.toNat length)[i]?
      = (lastStored? (runAll boundary calls window).1 (address.toNat + i)).or
        window.bytes[address.toNat + i - window.base.toNat]? := by
  obtain ⟨hbase, hend⟩ := (covers_runAll_iff calls window address length).mp h
  -- The byte is there, so that the contents of the window name it and not a default.
  obtain ⟨byte, hbyte⟩ : ∃ byte,
      window.bytes[address.toNat + i - window.base.toNat]? = some byte :=
    ⟨_, Array.getElem?_eq_getElem (by omega)⟩
  have hinitial : window.contents (address.toNat + i) = byte := by
    rw [contents, if_pos (by omega), hbyte, Option.getD_some]
  rw [Contents.getElem?_read, if_pos hi, contents_runAll, hinitial, hbyte]
  cases lastStored? (runAll boundary calls window).1 (address.toNat + i) with
  | none => rfl
  | some stored => rfl

/-- A window is a store of bytes that moves a range whole or not at all: whatever calls were
made before, a call is accepted just if its range lies in the window, one that is refused
changes nothing, and a copy brings the bytes stored last. -/
theorem recalls_runAll (window : Window) (calls : List Call) (call : Call) :
    let run := runAll boundary calls window
    let made := call.run boundary run.2
    made.1.call = call ∧ window.Recalls run.1 run.2 made.1 made.2 := by
  intro run made
  refine ⟨call_run run.2 call, ?_⟩
  have hcovers := covers_runAll_iff calls window call.address call.length
  by_cases h : run.2.Covers call.address call.length
  · have hmade : made = (⟨call, .ok (), run.2.filled call⟩, run.2.afterCall call) :=
      run_of_covers h
    rw [hmade]
    refine ⟨⟨fun _ => hcovers.mp h, fun _ => rfl⟩, ?_, ?_, ?_, ?_⟩
    · intro other haddress hlength
      rw [answer_run, haddress, hlength]
      exact if_pos h
    · intro e he
      cases he
    · rintro address destination rfl -
      refine ⟨Contents.length_read .., ?_⟩
      intro i hi
      exact getElem?_read_runAll calls h hi
    · intro hcall
      cases call with
      | check => rfl
      | copyIn => rfl
      | copyOut address source => exact absurd rfl (hcall address source)
  · have hmade : made = (⟨call, .error ⟨call.address, call.length⟩, call.buffer⟩, run.2) :=
      run_of_not_covers h
    rw [hmade]
    refine ⟨⟨?_, fun hin => absurd (hcovers.mpr hin) h⟩, ?_, ?_, ?_, ?_⟩
    · intro hok
      cases hok
    · intro other haddress hlength
      rw [answer_run, haddress, hlength]
      exact if_neg h
    · intro e he
      cases he
      exact ⟨rfl, rfl, rfl⟩
    · intro address destination _ hok
      cases hok
    · intro _
      rfl

/-- Of two stores that overlap the later one counts, and one that passes the end does not. -/
example :
    let calls : List Call :=
      [.copyOut 0x100 [1, 2, 3, 4], .copyOut 0x102 [7], .copyOut 0x103 [8, 9]]
    let run := runAll boundary calls ⟨0x100, #[0, 0, 0, 0]⟩
    ((Call.copyIn 0x101 [0, 0, 0]).run boundary run.2).1.buffer = [2, 7, 4] := by
  decide

end Window

end SensorLink

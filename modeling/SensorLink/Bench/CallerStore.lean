/-
Caller memory on the bench: a window whose calls are recorded and can be made to
fail.

* `MemoryCall` — a call at the boundary;
* `CallerStore` — the window, its planned failures and the record of its calls;
* `CallerStore.boundary` — the store as a boundary.
-/
import SensorLink.Control.Boundary

namespace SensorLink.Bench

/-- The calls at the boundary to caller memory. -/
inductive MemoryCallKind where
  | check
  | copyIn
  | copyOut
  deriving DecidableEq, Repr

/-- A call at the boundary, with the range it is about. -/
structure MemoryCall where
  kind : MemoryCallKind
  address : UInt64
  length : Nat
  deriving DecidableEq, Repr

/-- Counts the calls down to the one that is to fail. -/
def countdown : Option Nat → Bool × Option Nat
  | none => (false, none)
  | some 0 => (true, none)
  | some (n + 1) => (false, some n)

/-- Caller memory with planned failures. -/
structure CallerStore where
  window : Window
  /-- Whether a check accepts every range. -/
  gullible : Bool := false
  /-- How many checks are left before the one that fails. -/
  checkFault : Option Nat := none
  /-- How many copies to us are left before the one that fails. -/
  copyInFault : Option Nat := none
  /-- How many copies to the caller are left before the one that fails. -/
  copyOutFault : Option Nat := none
  log : Array MemoryCall := #[]

namespace CallerStore

/-- Plans a failure, counted from the next call of the kind, in place of the one
that was planned before. -/
def plan (store : CallerStore) (index : Nat) : MemoryCallKind → CallerStore
  | .check => { store with checkFault := some index }
  | .copyIn => { store with copyInFault := some index }
  | .copyOut => { store with copyOutFault := some index }

/-- Checks a range. -/
def check (address : UInt64) (length : Nat) : CallerStore → Except CopyError Unit × CallerStore
  | ⟨window, gullible, checkFault, copyInFault, copyOutFault, log⟩ =>
    let (fails, checkFault) := countdown checkFault
    let store : CallerStore := ⟨window, gullible, checkFault, copyInFault, copyOutFault,
      log.push ⟨.check, address, length⟩⟩
    if fails then (.error ⟨address, length⟩, store)
    else if gullible then (.ok (), store)
    else ((Window.boundary.check address length window).1, store)

/-- Fills a destination from a range. -/
def copyInto (address : UInt64) (destination : Bytes) :
    CallerStore → Except CopyError Unit × (Bytes × CallerStore)
  | ⟨window, gullible, checkFault, copyInFault, copyOutFault, log⟩ =>
    let (fails, copyInFault) := countdown copyInFault
    let store : CallerStore := ⟨window, gullible, checkFault, copyInFault, copyOutFault,
      log.push ⟨.copyIn, address, destination.length⟩⟩
    if fails then (.error ⟨address, destination.length⟩, (destination, store))
    else
      match Window.boundary.copyInto address destination window with
      | (answer, (destination, _)) => (answer, (destination, store))

/-- Overwrites a range. -/
def copyOut (address : UInt64) (data : Bytes) :
    CallerStore → Except CopyError Unit × CallerStore
  | ⟨window, gullible, checkFault, copyInFault, copyOutFault, log⟩ =>
    let (fails, copyOutFault) := countdown copyOutFault
    let log := log.push ⟨.copyOut, address, data.length⟩
    if fails then
      (.error ⟨address, data.length⟩,
        ⟨window, gullible, checkFault, copyInFault, copyOutFault, log⟩)
    else
      match Window.boundary.copyOut address data window with
      | (answer, window) =>
        (answer, ⟨window, gullible, checkFault, copyInFault, copyOutFault, log⟩)

section CopyInto

variable {address : UInt64} {store : CallerStore}

/-- The store after a copy to us. -/
def fetched (address : UInt64) (length : Nat) (store : CallerStore) : CallerStore :=
  { store with
    copyInFault := (countdown store.copyInFault).2
    log := store.log.push ⟨.copyIn, address, length⟩ }

theorem copyInto_of_fails (hfails : (countdown store.copyInFault).1 = true) (destination : Bytes) :
    store.copyInto address destination
      = (.error ⟨address, destination.length⟩,
        (destination, store.fetched address destination.length)) := by
  simp only [copyInto, hfails, if_true, fetched]

theorem copyInto_of_works {destination filled : Bytes} {answer : Except CopyError Unit}
    {v : Window} (hworks : (countdown store.copyInFault).1 = false)
    (hcopy : Window.boundary.copyInto address destination store.window = (answer, (filled, v))) :
    store.copyInto address destination
      = (answer, (filled, store.fetched address destination.length)) := by
  simp only [copyInto, hworks, Bool.false_eq_true, if_false, hcopy, fetched]

end CopyInto

/-- The store as a boundary. -/
def boundary : Boundary CallerStore where
  check := check
  copyInto := copyInto
  copyOut := copyOut
  copiesWhole address length store := by
    cases hfails : (countdown store.copyInFault).1 with
    | true =>
      refine .refused ⟨address, length⟩ (store.fetched address length) ?_
      rintro destination rfl
      exact copyInto_of_fails hfails destination
    | false =>
      cases Window.boundary.copiesWhole address length store.window with
      | filled bytes v hlength hcopy =>
        refine .filled bytes (store.fetched address length) hlength ?_
        rintro destination rfl
        exact copyInto_of_works hfails (hcopy destination rfl)
      | refused e v hcopy =>
        refine .refused e (store.fetched address length) ?_
        rintro destination rfl
        exact copyInto_of_works hfails (hcopy destination rfl)

section CopyIn

variable {address : UInt64} {length : Nat} {store : CallerStore}

/-- A copy to us that was planned to fail is refused. -/
theorem copyIn_of_fails (hfails : (countdown store.copyInFault).1 = true) :
    boundary.copyIn address length store
      = (.error ⟨address, length⟩, store.fetched address length) := by
  have hlength : (List.replicate length (0 : UInt8)).length = length := List.length_replicate
  have hcopy : boundary.copyInto address (List.replicate length 0) store = _ :=
    copyInto_of_fails hfails _
  rw [Boundary.copyIn_of_refused hcopy, hlength]

/-- Any other ends as it does in the window. -/
theorem copyIn_of_works {answer : Except CopyError (Vector UInt8 length)} {v : Window}
    (hworks : (countdown store.copyInFault).1 = false)
    (hcopy : Window.boundary.copyIn address length store.window = (answer, v)) :
    boundary.copyIn address length store = (answer, store.fetched address length) := by
  have hlength : (List.replicate length (0 : UInt8)).length = length := List.length_replicate
  cases answer with
  | ok bytes =>
    have hinto : boundary.copyInto address (List.replicate length 0) store = _ :=
      copyInto_of_works hworks (Boundary.copyInto_of_ok hcopy hlength)
    rw [Boundary.copyIn_of_filled hinto, hlength]
  | error e =>
    have hinto : boundary.copyInto address (List.replicate length 0) store = _ :=
      copyInto_of_works hworks (Boundary.copyInto_of_error hcopy hlength)
    rw [Boundary.copyIn_of_refused hinto, hlength]

end CopyIn

end CallerStore

end SensorLink.Bench

/-
How a run ends.

Every operation on a sensor threads an explicit world (buses, registers, caller
memory, logs) and ends in one of three ways: with a value, with an error its
caller is meant to handle, or in a trap.

* `Trap` — the contracts that can be broken;
* `Outcome` — a value, an error or a trap, `Outcome.Settled` — no trap;
* `Run` — an outcome together with the world it leaves behind;
* `Run.andThen` — sequencing, in which the world survives errors and traps.

Design notes.  A trap is not an error: nobody handles it, and whatever was under
way stops there.  Keeping traps as values of the result, and not as undefined
corners of the operations, makes "never traps" a statement about the definitions.
-/
namespace SensorLink

/-- A broken contract between two layers. -/
inductive Trap where
  /-- A bus offered chunks of zero bytes. -/
  | zeroChunkSize
  /-- A chunk was longer than its bus carries. -/
  | oversizedChunk
  /-- A four-wire register address had the direction bit set. -/
  | directionBitSet
  /-- A register address left its sixteen bits. -/
  | registerOverflow
  /-- A byte offset left its sixty-four bits. -/
  | offsetOverflow
  /-- A byte range left the array it was cut from. -/
  | outOfBounds
  deriving DecidableEq, Repr

/-- The ending of a run. -/
inductive Outcome (ε α : Type) where
  | ok (value : α)
  | error (cause : ε)
  | trap (cause : Trap)
  deriving DecidableEq, Repr

namespace Outcome

variable {ε δ α β : Type}

/-- Applies `f` to the value of a run that has one. -/
def map (f : α → β) : Outcome ε α → Outcome ε β
  | ok a => ok (f a)
  | error e => error e
  | trap t => trap t

/-- Applies `f` to the error of a run that failed. -/
def mapError (f : ε → δ) : Outcome ε α → Outcome δ α
  | ok a => ok a
  | error e => error (f e)
  | trap t => trap t

/-- The run did not end in a trap. -/
def Settled : Outcome ε α → Prop
  | ok _ => True
  | error _ => True
  | trap _ => False

instance : (outcome : Outcome ε α) → Decidable outcome.Settled
  | ok _ => .isTrue trivial
  | error _ => .isTrue trivial
  | trap _ => .isFalse id

/-- The value or the error of a run that did not end in a trap. -/
def toExcept : (outcome : Outcome ε α) → outcome.Settled → Except ε α
  | ok a, _ => .ok a
  | error e, _ => .error e

theorem toExcept_of_ok {outcome : Outcome ε α} {a : α} (h : outcome = .ok a)
    (hsettled : outcome.Settled) : outcome.toExcept hsettled = .ok a := by
  subst h
  rfl

theorem toExcept_of_error {outcome : Outcome ε α} {e : ε} (h : outcome = .error e)
    (hsettled : outcome.Settled) : outcome.toExcept hsettled = .error e := by
  subst h
  rfl

theorem error_ne_ok {e : ε} {a : α} : error e ≠ ok a := by
  intro h
  cases h

theorem trap_ne_ok {t : Trap} {a : α} : (trap t : Outcome ε α) ≠ ok a := by
  intro h
  cases h

@[simp] theorem map_ok (f : α → β) (a : α) : (ok a : Outcome ε α).map f = ok (f a) := rfl

@[simp] theorem map_error (f : α → β) (e : ε) : (error e).map f = error e := rfl

@[simp] theorem map_trap (f : α → β) (t : Trap) : (trap t : Outcome ε α).map f = trap t := rfl

@[simp] theorem mapError_ok (f : ε → δ) (a : α) : (ok a).mapError f = ok a := rfl

@[simp] theorem mapError_error (f : ε → δ) (e : ε) :
    (error e : Outcome ε α).mapError f = error (f e) := rfl

@[simp] theorem mapError_trap (f : ε → δ) (t : Trap) :
    (trap t : Outcome ε α).mapError f = trap t := rfl

theorem mapError_eq_ok {f : ε → δ} {outcome : Outcome ε α} {a : α} :
    outcome.mapError f = ok a ↔ outcome = ok a := by
  cases outcome <;> simp [mapError]

theorem mapError_eq_error {f : ε → δ} {outcome : Outcome ε α} {d : δ} :
    outcome.mapError f = error d ↔ ∃ e, outcome = error e ∧ f e = d := by
  cases outcome <;> simp [mapError]

theorem mapError_eq_trap {f : ε → δ} {outcome : Outcome ε α} {t : Trap} :
    outcome.mapError f = trap t ↔ outcome = trap t := by
  cases outcome <;> simp [mapError]

end Outcome

/-- An outcome and the world in which it was reached. -/
structure Run (ω ε α : Type) where
  outcome : Outcome ε α
  world : ω

namespace Run

variable {ω ω' ε δ α β : Type}

/-- Goes on with `next` after a run that gave a value. -/
def andThen (run : Run ω ε α) (next : α → ω → Run ω ε β) : Run ω ε β :=
  match run with
  | ⟨.ok a, w⟩ => next a w
  | ⟨.error e, w⟩ => ⟨.error e, w⟩
  | ⟨.trap t, w⟩ => ⟨.trap t, w⟩

/-- Applies `f` to the value of the run. -/
def map (f : α → β) (run : Run ω ε α) : Run ω ε β :=
  match run with
  | ⟨outcome, w⟩ => ⟨outcome.map f, w⟩

/-- Applies `f` to the error of the run. -/
def mapError (f : ε → δ) (run : Run ω ε α) : Run ω δ α :=
  match run with
  | ⟨outcome, w⟩ => ⟨outcome.mapError f, w⟩

/-- Sees the final world through `f`. -/
def mapWorld (f : ω → ω') (run : Run ω ε α) : Run ω' ε α :=
  match run with
  | ⟨outcome, w⟩ => ⟨outcome, f w⟩

@[simp] theorem andThen_ok (a : α) (w : ω) (next : α → ω → Run ω ε β) :
    andThen ⟨.ok a, w⟩ next = next a w := rfl

@[simp] theorem andThen_error (e : ε) (w : ω) (next : α → ω → Run ω ε β) :
    andThen ⟨.error e, w⟩ next = ⟨.error e, w⟩ := rfl

@[simp] theorem andThen_trap (t : Trap) (w : ω) (next : α → ω → Run ω ε β) :
    andThen ⟨.trap t, w⟩ next = ⟨.trap t, w⟩ := rfl

/-- A sequence that gave a value ran to its end. -/
theorem andThen_eq_ok {run : Run ω ε α} {next : α → ω → Run ω ε β} {b : β}
    (h : (run.andThen next).outcome = .ok b) :
    ∃ a w, run = ⟨.ok a, w⟩ ∧ (next a w).outcome = .ok b := by
  rcases run with ⟨_ | _ | _, w⟩
  · exact ⟨_, w, rfl, h⟩
  · cases h
  · cases h

/-- A sequence that failed did so in its first part or in what followed it. -/
theorem andThen_eq_error {run : Run ω ε α} {next : α → ω → Run ω ε β} {e : ε}
    (h : (run.andThen next).outcome = .error e) :
    run.outcome = .error e ∨ ∃ a w, run = ⟨.ok a, w⟩ ∧ (next a w).outcome = .error e := by
  rcases run with ⟨_ | _ | _, w⟩
  · exact .inr ⟨_, w, rfl, h⟩
  · cases h
    exact .inl rfl
  · cases h

@[simp] theorem outcome_map (f : α → β) (run : Run ω ε α) :
    (run.map f).outcome = run.outcome.map f := rfl

@[simp] theorem world_map (f : α → β) (run : Run ω ε α) : (run.map f).world = run.world := rfl

@[simp] theorem outcome_mapError (f : ε → δ) (run : Run ω ε α) :
    (run.mapError f).outcome = run.outcome.mapError f := rfl

@[simp] theorem world_mapError (f : ε → δ) (run : Run ω ε α) :
    (run.mapError f).world = run.world := rfl

@[simp] theorem outcome_mapWorld (f : ω → ω') (run : Run ω ε α) :
    (run.mapWorld f).outcome = run.outcome := rfl

@[simp] theorem world_mapWorld (f : ω → ω') (run : Run ω ε α) :
    (run.mapWorld f).world = f run.world := rfl

end Run

end SensorLink

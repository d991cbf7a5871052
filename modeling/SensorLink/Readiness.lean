/-
The data-ready flag of a sensor.

The interrupt line raises the flag; one wait takes it and clears it.  Raising a
raised flag changes nothing, so a burst of interrupts is one occurrence.  A wait
can be given up by a race with a cancellation, and the flag is looked at first.

* `Bridge` — the flag, over a signal and a race;
* `Bridge.notify` — an interrupt;
* `Bridge.poll`, `Bridge.pollOr` — one poll of a wait, and of a wait that can be cancelled;
* `Bridge.Lawful` — what is asked of the signal and the race, and what polls do then;
* `Readiness`, `Readiness.bridge` — a flag that knows the task that waits for it, and the
  bridge it makes.

Design notes.  `ι` are the names of tasks, and `ρ` the states of a flag.
-/
import SensorLink.Future

namespace SensorLink

/-- How far a wait has come. -/
inductive Waited where
  | ready
  | interrupted
  | pending
  deriving DecidableEq, Repr

/-- An interrupted wait in words. -/
def Waited.interruptedMessage : String :=
  "wait for data ready interrupted"

/-- A data-ready flag: a signal, and the race of a wait for it with a cancellation. -/
structure Bridge (ι ρ : Type) where
  signal : Signal ι ρ
  race : Race ι

namespace Bridge

variable {ι ρ τ β : Type}

/-- A flag that was never raised. -/
def idle (bridge : Bridge ι ρ) : ρ :=
  bridge.signal.new

/-- Whether the flag is raised. -/
def isReady (bridge : Bridge ι ρ) (readiness : ρ) : Bool :=
  bridge.signal.signaled readiness

/-- Raises the flag.  Gives the tasks that this wakes, and the new state. -/
def notify (bridge : Bridge ι ρ) (readiness : ρ) : List ι × ρ :=
  bridge.signal.raise readiness

/-- Raises the flag once for each of `count` interrupts. -/
def notifyMany (bridge : Bridge ι ρ) : Nat → ρ → List ι × ρ
  | 0, readiness => ([], readiness)
  | count + 1, readiness =>
    match bridge.notify readiness with
    | (woken, readiness) =>
      match bridge.notifyMany count readiness with
      | (others, readiness) => (woken ++ others, readiness)

/-- Polls a wait. -/
def poll (bridge : Bridge ι ρ) (task : ι) (readiness : ρ) : Polled ι ρ Waited :=
  match bridge.signal.wait.poll task readiness with
  | ⟨some (), woken, readiness⟩ => ⟨.ready, woken, readiness⟩
  | ⟨none, woken, readiness⟩ => ⟨.pending, woken, readiness⟩

/-- Drops a wait that has not ended. -/
def drop (bridge : Bridge ι ρ) (readiness : ρ) : ρ :=
  bridge.signal.wait.drop readiness

/-- A wait in a race with a cancellation. -/
def waitOr (bridge : Bridge ι ρ) (cancel : Future ι τ β) : Future ι (ρ × τ) (Unit ⊕ β) :=
  bridge.race.select bridge.signal.wait cancel

/-- Polls a wait that can be cancelled. -/
def pollOr (bridge : Bridge ι ρ) (cancel : Future ι τ β) (task : ι) (state : ρ × τ) :
    Polled ι (ρ × τ) Waited :=
  match (bridge.waitOr cancel).poll task state with
  | ⟨some (.inl _), woken, state⟩ => ⟨.ready, woken, state⟩
  | ⟨some (.inr _), woken, state⟩ => ⟨.interrupted, woken, state⟩
  | ⟨none, woken, state⟩ => ⟨.pending, woken, state⟩

/-- Drops a wait that can be cancelled and has not ended. -/
def dropOr (bridge : Bridge ι ρ) (cancel : Future ι τ β) (state : ρ × τ) : ρ × τ :=
  (bridge.waitOr cancel).drop state

/-- What is asked of the signal and the race. -/
structure Lawful (bridge : Bridge ι ρ) : Prop where
  signal : bridge.signal.Lawful
  race : bridge.race.InOrder

namespace Lawful

variable {bridge : Bridge ι ρ}

theorem isReady_idle (h : bridge.Lawful) : bridge.isReady bridge.idle = false :=
  h.signal.new

theorem isReady_notify (h : bridge.Lawful) (readiness : ρ) :
    bridge.isReady (bridge.notify readiness).2 = true :=
  h.signal.raise readiness

theorem isReady_notifyMany (h : bridge.Lawful) (count : Nat) (readiness : ρ) :
    bridge.isReady (bridge.notifyMany count readiness).2 = true ↔
      0 < count ∨ bridge.isReady readiness = true := by
  induction count generalizing readiness with
  | zero => exact ⟨.inr, fun h => h.resolve_left (Nat.lt_irrefl 0)⟩
  | succ count ih =>
    refine ⟨fun _ => .inl count.succ_pos, fun _ => ?_⟩
    exact (ih _).mpr (.inr (h.isReady_notify readiness))

/-! ### Waits -/

theorem result_poll (h : bridge.Lawful) (task : ι) (readiness : ρ) :
    (bridge.poll task readiness).result
      = if bridge.isReady readiness then .ready else .pending := by
  have hcompletes := h.signal.completes task readiness
  obtain ⟨⟨result, woken, next⟩, hpoll⟩ :
    ∃ polled, bridge.signal.wait.poll task readiness = polled := ⟨_, rfl⟩
  rw [hpoll] at hcompletes
  simp only [poll, isReady, hpoll, ← hcompletes]
  cases result <;> rfl

theorem isReady_poll (h : bridge.Lawful) (task : ι) (readiness : ρ) :
    bridge.isReady (bridge.poll task readiness).state = false := by
  have hclear := h.signal.clear task readiness
  obtain ⟨⟨result, woken, next⟩, hpoll⟩ :
    ∃ polled, bridge.signal.wait.poll task readiness = polled := ⟨_, rfl⟩
  rw [hpoll] at hclear
  simp only [poll, hpoll]
  cases result <;> exact hclear

theorem isReady_drop (h : bridge.Lawful) (readiness : ρ) :
    bridge.isReady (bridge.drop readiness) = bridge.isReady readiness :=
  h.signal.drop readiness

/-! ### Waits that can be cancelled -/

variable (cancel : Future ι τ β) (task : ι) {readiness : ρ} (state : τ)

/-- A raised flag ends the wait, whatever its cancellation would do. -/
theorem pollOr_of_ready (h : bridge.Lawful) (hready : bridge.isReady readiness = true) :
    let polled := bridge.pollOr cancel task (readiness, state)
    polled.result = .ready ∧ bridge.isReady polled.state.1 = false := by
  have hclear := h.signal.clear task readiness
  obtain ⟨_, hresult⟩ :=
    Option.isSome_iff_exists.mp ((h.signal.completes task readiness).trans hready)
  obtain ⟨hselect, hstate⟩ :=
    h.race.firstReady bridge.signal.wait cancel task readiness state hresult
  obtain ⟨⟨result, woken, next⟩, hpoll⟩ :
    ∃ polled, (bridge.waitOr cancel).poll task (readiness, state) = polled := ⟨_, rfl⟩
  simp only [waitOr] at hpoll
  rw [hpoll] at hselect hstate
  cases hselect
  cases hstate
  simp only [pollOr, waitOr, hpoll]
  exact ⟨trivial, hclear⟩

/-- A clear flag stays clear, and the wait goes as its cancellation says. -/
theorem pollOr_of_clear (h : bridge.Lawful) (hready : bridge.isReady readiness = false) :
    let polled := bridge.pollOr cancel task (readiness, state)
    polled.result = (if (cancel.poll task state).result.isSome then .interrupted else .pending) ∧
      bridge.isReady polled.state.1 = false ∧ polled.state.2 = (cancel.poll task state).state := by
  have hclear := h.signal.clear task readiness
  have hdrop := (h.signal.drop (bridge.signal.wait.poll task readiness).state).trans hclear
  have hpending : (bridge.signal.wait.poll task readiness).result = none := by
    rw [← Option.not_isSome_iff_eq_none, h.signal.completes task readiness]
    exact Bool.eq_false_iff.mp hready
  obtain ⟨⟨result, woken, next⟩, hpoll⟩ :
    ∃ polled, (bridge.waitOr cancel).poll task (readiness, state) = polled := ⟨_, rfl⟩
  simp only [waitOr] at hpoll
  simp only [pollOr, waitOr, hpoll]
  cases hcancel : (cancel.poll task state).result with
  | none =>
    obtain ⟨hselect, hstate⟩ :=
      h.race.bothPending bridge.signal.wait cancel task readiness state hpending hcancel
    rw [hpoll] at hselect hstate
    cases hselect
    cases hstate
    exact ⟨rfl, hclear, rfl⟩
  | some b =>
    obtain ⟨hselect, hstate⟩ :=
      h.race.secondReady bridge.signal.wait cancel task readiness state hpending hcancel
    rw [hpoll] at hselect hstate
    cases hselect
    cases hstate
    exact ⟨rfl, hdrop, rfl⟩

/-- The flag comes before the cancellation. -/
theorem result_pollOr (h : bridge.Lawful) (readiness : ρ) :
    (bridge.pollOr cancel task (readiness, state)).result
      = if bridge.isReady readiness then .ready
        else if (cancel.poll task state).result.isSome then .interrupted else .pending := by
  cases hready : bridge.isReady readiness with
  | true => exact (h.pollOr_of_ready cancel task state hready).1
  | false => exact (h.pollOr_of_clear cancel task state hready).1

theorem isReady_pollOr (h : bridge.Lawful) (readiness : ρ) :
    bridge.isReady (bridge.pollOr cancel task (readiness, state)).state.1 = false := by
  cases hready : bridge.isReady readiness with
  | true => exact (h.pollOr_of_ready cancel task state hready).2
  | false => exact (h.pollOr_of_clear cancel task state hready).2.1

theorem result_pollOr_gate (h : bridge.Lawful) (readiness : ρ) (cancelled : Bool) :
    (bridge.pollOr .gate task (readiness, cancelled)).result
      = if bridge.isReady readiness then .ready
        else if cancelled then .interrupted else .pending := by
  rw [h.result_pollOr]
  cases cancelled <;> rfl

theorem isReady_dropOr (h : bridge.Lawful) (readiness : ρ) :
    bridge.isReady (bridge.dropOr cancel (readiness, state)).1 = bridge.isReady readiness := by
  rw [dropOr, waitOr, h.race.drop]
  exact h.signal.drop readiness

end Lawful

end Bridge

/-! ### A flag with a registered task -/

/-- The state of a flag that knows which task waits for it. -/
inductive Readiness (ι : Type) where
  /-- The flag is clear and nobody waits. -/
  | idle
  /-- The flag is clear and a task is registered. -/
  | awaited (task : ι)
  /-- The flag is raised. -/
  | raised
  deriving DecidableEq, Repr

namespace Readiness

variable {ι : Type}

/-- Whether the flag is raised. -/
def isReady : Readiness ι → Bool
  | raised => true
  | idle => false
  | awaited _ => false

/-- Raises the flag, and wakes the task that is registered. -/
def notify : Readiness ι → List ι × Readiness ι
  | idle => ([], raised)
  | awaited task => ([task], raised)
  | raised => ([], raised)

/-- Takes the flag if it is raised, and registers the task if it is clear.  A
different task that was registered before is woken and forgotten. -/
def poll [DecidableEq ι] (task : ι) : Readiness ι → Polled ι (Readiness ι) (Option Unit)
  | raised => ⟨some (), [], idle⟩
  | idle => ⟨none, [], awaited task⟩
  | awaited other => ⟨none, if other = task then [] else [other], awaited task⟩

/-- The flag as a signal.  A wait that is dropped leaves its registration behind. -/
def signal [DecidableEq ι] : Signal ι (Readiness ι) where
  new := idle
  raise := notify
  signaled := isReady
  wait := ⟨poll, id⟩

theorem signal_lawful [DecidableEq ι] : (signal : Signal ι (Readiness ι)).Lawful where
  new := rfl
  raise readiness := by cases readiness <;> rfl
  completes task readiness := by cases readiness <;> rfl
  clear task readiness := by cases readiness <;> rfl
  drop _ := rfl

/-- The flag as a bridge. -/
def bridge [DecidableEq ι] : Bridge ι (Readiness ι) :=
  ⟨signal, .inOrder⟩

theorem bridge_lawful [DecidableEq ι] : (bridge : Bridge ι (Readiness ι)).Lawful :=
  ⟨signal_lawful, Race.inOrder_inOrder⟩

end Readiness

end SensorLink

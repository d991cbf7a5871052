/-
What is polled until it completes.

A future is polled on behalf of a task until it completes, or it is dropped before that.  The
waits for a signal and the race of two futures are made elsewhere: here is how they are used,
and what is asked of them.

* `Polled`, `Future` — what a poll gave; a future by its polls and its drop;
* `Future.gate` — a future that completes once it is told to;
* `Signal`, `Signal.Lawful` — a signal with the waits for it, and what is asked of it;
* `Race`, `Race.InOrder` — a race of two futures that looks at the first one first;
* `Race.inOrder` — such a race.
-/
namespace SensorLink

/-- What a poll gave, the tasks it woke, and the state it left. -/
structure Polled (ι σ α : Type) where
  result : α
  woken : List ι
  state : σ

/-- Something that is polled on behalf of tasks, named by `ι`, until it completes, or is dropped
before it does.  Its states may be shared with others. -/
structure Future (ι σ α : Type) where
  poll : ι → σ → Polled ι σ (Option α)
  drop : σ → σ

variable {ι σ τ α β : Type}

/-- A future that completes once its state says so. -/
def Future.gate : Future ι Bool Unit where
  poll _ isOpen := ⟨if isOpen then some () else none, [], isOpen⟩
  drop isOpen := isOpen

/-- A signal that can be raised and waited for. -/
structure Signal (ι σ : Type) where
  /-- A signal that was just made. -/
  new : σ
  /-- Raises the signal, and wakes tasks. -/
  raise : σ → List ι × σ
  signaled : σ → Bool
  wait : Future ι σ Unit

/-- What is asked of a signal. -/
structure Signal.Lawful (signal : Signal ι σ) : Prop where
  new : signal.signaled signal.new = false
  raise : ∀ s, signal.signaled (signal.raise s).2 = true
  /-- A wait completes just if the signal is raised. -/
  completes : ∀ task s, (signal.wait.poll task s).result.isSome = signal.signaled s
  /-- A wait that completes takes the signal, and one that does not leaves it clear. -/
  clear : ∀ task s, signal.signaled (signal.wait.poll task s).state = false
  drop : ∀ s, signal.signaled (signal.wait.drop s) = signal.signaled s

/-- The race of two futures: it completes with the one that completes first, and the other one
is dropped. -/
structure Race (ι : Type) where
  select {σ τ α β : Type} : Future ι σ α → Future ι τ β → Future ι (σ × τ) (α ⊕ β)

/-- What is asked of a race: the second future is polled only if the first one is pending. -/
structure Race.InOrder (race : Race ι) : Prop where
  firstReady {σ τ α β : Type} (first : Future ι σ α) (second : Future ι τ β) (task : ι) (s : σ)
    (t : τ) {a : α} : (first.poll task s).result = some a →
      let polled := (race.select first second).poll task (s, t)
      polled.result = some (.inl a) ∧
        polled.state = ((first.poll task s).state, second.drop t)
  secondReady {σ τ α β : Type} (first : Future ι σ α) (second : Future ι τ β) (task : ι) (s : σ)
    (t : τ) {b : β} : (first.poll task s).result = none → (second.poll task t).result = some b →
      let polled := (race.select first second).poll task (s, t)
      polled.result = some (.inr b) ∧
        polled.state = (first.drop (first.poll task s).state, (second.poll task t).state)
  bothPending {σ τ α β : Type} (first : Future ι σ α) (second : Future ι τ β) (task : ι) (s : σ)
    (t : τ) : (first.poll task s).result = none → (second.poll task t).result = none →
      let polled := (race.select first second).poll task (s, t)
      polled.result = none ∧
        polled.state = ((first.poll task s).state, (second.poll task t).state)
  drop {σ τ α β : Type} (first : Future ι σ α) (second : Future ι τ β) (s : σ) (t : τ) :
    (race.select first second).drop (s, t) = (first.drop s, second.drop t)

/-- The race that polls its futures in order. -/
def Race.inOrder : Race ι where
  select first second :=
    { poll := fun task (s, t) =>
        match first.poll task s with
        | ⟨some a, woken, s⟩ => ⟨some (.inl a), woken, (s, second.drop t)⟩
        | ⟨none, woken, s⟩ =>
          match second.poll task t with
          | ⟨some b, others, t⟩ => ⟨some (.inr b), woken ++ others, (first.drop s, t)⟩
          | ⟨none, others, t⟩ => ⟨none, woken ++ others, (s, t)⟩
      drop := fun (s, t) => (first.drop s, second.drop t) }

theorem Race.inOrder_inOrder : (inOrder : Race ι).InOrder where
  firstReady first second task s t a hfirst := by
    obtain ⟨⟨_, woken, s'⟩, hpoll⟩ : ∃ polled, first.poll task s = polled := ⟨_, rfl⟩
    rw [hpoll] at hfirst ⊢
    cases hfirst
    simp only [inOrder, hpoll, and_self]
  secondReady first second task s t b hfirst hsecond := by
    obtain ⟨⟨_, woken, s'⟩, hpoll⟩ : ∃ polled, first.poll task s = polled := ⟨_, rfl⟩
    obtain ⟨⟨_, others, t'⟩, hpoll'⟩ : ∃ polled, second.poll task t = polled := ⟨_, rfl⟩
    rw [hpoll] at hfirst ⊢
    rw [hpoll'] at hsecond ⊢
    cases hfirst
    cases hsecond
    simp only [inOrder, hpoll, hpoll', and_self]
  bothPending first second task s t hfirst hsecond := by
    obtain ⟨⟨_, woken, s'⟩, hpoll⟩ : ∃ polled, first.poll task s = polled := ⟨_, rfl⟩
    obtain ⟨⟨_, others, t'⟩, hpoll'⟩ : ∃ polled, second.poll task t = polled := ⟨_, rfl⟩
    rw [hpoll] at hfirst ⊢
    rw [hpoll'] at hsecond ⊢
    cases hfirst
    cases hsecond
    simp only [inOrder, hpoll, hpoll', and_self]
  drop _ _ _ _ := rfl

end SensorLink

/-
A wait with a timeout, through every order of the things that can happen to it.

The wait makes its timer when it is first polled.  Between its polls the clock goes on,
interrupts come, and other waiters of the same sensor are polled.  It ends at its first poll
at which the flag is raised, which it takes however late it is, or the flag is clear and the
timer has run out.  It never gives up before its time.

* `Alarm.NeverEarly`, `Alarm.RoundsUp` — what is asked of a timer that is only known by its
  polls;
* `TimedWait` — the wait, whose poll is that of `Waiter.waitTimeout`: `TimedWait.poll_waiter`;
* `Moment`, `TimedState.step`, `TimedState.runAll` — what happens, one step, and a run with
  all looks that the wait takes;
* `TimedState.Started` — what the timer was asked since it was made;
* `TimedState.InTime`, `timed_wait_in_time` — the looks of a wait in any run.

Design notes.  The timer, the signal and the race are parameters because their source is not
part of the project.  The timer may need polls before it runs out, so nothing says that a poll
after the deadline finds it run out; a timer that fires early is excluded only while its ticks
and its deadline fit in 64 bits.
-/
import SensorLink.Readiness.Waiter

namespace SensorLink

variable {ι ρ τ : Type}

/-! ### Timers -/

namespace Alarm

/-- A timer after polls at some times. -/
def after (alarm : Alarm τ) (timer : τ) : List Nat → τ
  | [] => timer
  | time :: times => alarm.after (alarm.poll time timer).2 times

theorem after_concat (alarm : Alarm τ) (timer : τ) (times : List Nat) (time : Nat) :
    alarm.after timer (times ++ [time]) = (alarm.poll time (alarm.after timer times)).2 := by
  induction times generalizing timer with
  | nil => rfl
  | cons first times ih => exact ih (alarm.poll first timer).2

/-- No timer is found to have run out before its deadline, whenever it was polled before. -/
def NeverEarly (alarm : Alarm τ) : Prop :=
  ∀ start duration times now, start + duration < UInt64.size →
    (start :: times).Pairwise (· ≤ ·) → (∀ time ∈ start :: times, time ≤ now) →
    (alarm.poll now (alarm.after (alarm.start start duration) times)).1 = true →
    start + duration ≤ now

/-- No duration is turned into too few ticks. -/
def RoundsUp (alarm : Alarm τ) : Prop :=
  ∀ ms, ms * alarm.rate < UInt64.size → ms * alarm.rate ≤ alarm.ticks ms * 1000

/-- A timer as a future completes just if it has run out. -/
theorem isSome_poll_future (alarm : Alarm τ) (now : Nat) (task : ι) (timer : τ) :
    ((alarm.future now).poll task timer).result.isSome = (alarm.poll now timer).1 := by
  simp only [future]
  cases (alarm.poll now timer).1 <;> rfl

end Alarm

/-- Once it has a deadline, the timer keeps it. -/
theorem Timer.alarm_after (duration deadline : Nat) (times : List Nat) :
    Timer.alarm.after ⟨duration, some deadline⟩ times = ⟨duration, some deadline⟩ := by
  induction times with
  | nil => rfl
  | cons time times ih => exact ih

theorem Timer.alarm_neverEarly : Timer.alarm.NeverEarly := by
  intro start duration times now _ htimes _ hranOut
  cases times with
  | nil => exact nomatch hranOut
  | cons first times =>
    have hafter : Timer.alarm.after (Timer.alarm.start start duration) (first :: times)
        = ⟨duration, some (first + duration)⟩ := Timer.alarm_after ..
    rw [hafter] at hranOut
    have hstart : start ≤ first := List.rel_of_pairwise_cons htimes List.mem_cons_self
    have hnow : first + duration ≤ now := of_decide_eq_true hranOut
    exact Nat.le_trans (Nat.add_le_add_right hstart duration) hnow

theorem Timer.alarm_roundsUp : Timer.alarm.RoundsUp := by
  intro ms _
  have hticks : Timer.alarm.ticks ms * 1000 = ms * 1000000 := Nat.mul_assoc ms 1000 1000
  rw [hticks]
  exact Nat.le_refl _

/-! ### The wait -/

/-- A wait with a timeout. -/
inductive TimedWait (τ : Type) where
  /-- It has not been polled, so that its timer does not exist. -/
  | fresh (duration : Nat)
  | running (timer : τ)

namespace TimedWait

/-- A wait of at most `ms` milliseconds. -/
def ofMilliseconds (alarm : Alarm τ) (ms : Nat) : TimedWait τ :=
  fresh (alarm.ticks ms)

/-- The timer, which is made if it does not exist. -/
def timer (alarm : Alarm τ) (now : Nat) : TimedWait τ → τ
  | fresh duration => alarm.start now duration
  | running timer => timer

/-- What a poll found, whom it woke, and the states it left. -/
structure Polled (ι ρ τ : Type) where
  found : Waited
  woken : List ι
  wait : TimedWait τ
  readiness : ρ

/-- Polls the wait, which gives up when its timer has run out. -/
def poll (bridge : Bridge ι ρ) (alarm : Alarm τ) (name : ι) (now : Nat) (readiness : ρ)
    (wait : TimedWait τ) : Polled ι ρ τ :=
  match bridge.pollOr (alarm.future now) name (readiness, wait.timer alarm now) with
  | ⟨found, woken, readiness, timer⟩ => ⟨found, woken, running timer, readiness⟩

/-- The timer would be found to have run out, whether or not it is looked at. -/
def ranOut (alarm : Alarm τ) (now : Nat) (wait : TimedWait τ) : Bool :=
  (alarm.poll now (wait.timer alarm now)).1

section Poll

variable {bridge : Bridge ι ρ} (alarm : Alarm τ) (name : ι) (now : Nat) {readiness : ρ}
  (wait : TimedWait τ)

theorem found_poll (hbridge : bridge.Lawful) (readiness : ρ) :
    (wait.poll bridge alarm name now readiness).found
      = if bridge.isReady readiness then .ready
        else if wait.ranOut alarm now then .interrupted else .pending := by
  rw [ranOut, ← alarm.isSome_poll_future now name]
  exact hbridge.result_pollOr (alarm.future now) name (wait.timer alarm now) readiness

theorem isReady_poll (hbridge : bridge.Lawful) (readiness : ρ) :
    bridge.isReady (wait.poll bridge alarm name now readiness).readiness = false :=
  hbridge.isReady_pollOr (alarm.future now) name (wait.timer alarm now) readiness

/-- The timer is looked at once while the flag is clear. -/
theorem wait_poll (hbridge : bridge.Lawful) (hclear : bridge.isReady readiness = false) :
    (wait.poll bridge alarm name now readiness).wait
      = .running (alarm.poll now (wait.timer alarm now)).2 := by
  have hstate :=
    (hbridge.pollOr_of_clear (alarm.future now) name (wait.timer alarm now) hclear).2.2
  exact congrArg running hstate

theorem found_poll_of_ready (hbridge : bridge.Lawful) (hready : bridge.isReady readiness = true) :
    (wait.poll bridge alarm name now readiness).found = .ready := by
  rw [found_poll alarm name now wait hbridge, if_pos hready]

end Poll

/-- The wait as a waiter on the virtual clock. -/
def waiter : TimedWait Timer → Waiter
  | fresh duration => .waitTimeout ⟨duration, none⟩
  | running timer => .waitTimeout timer

theorem waiter_ofMilliseconds (ms : Nat) :
    (ofMilliseconds Timer.alarm ms).waiter = .waitTimeout (Timer.ofMilliseconds ms) := rfl

/-- With the timers of the virtual clock, the wait is polled as the waiter is. -/
theorem poll_waiter (bridge : Bridge ι ρ) (name : ι) (now : Nat) (readiness : ρ)
    (wait : TimedWait Timer) :
    let polled := wait.poll bridge Timer.alarm name now readiness
    wait.waiter.poll bridge name now readiness
      = ⟨.ofWaited polled.found, polled.woken, polled.wait.waiter, polled.readiness⟩ := by
  cases wait <;> rfl

end TimedWait

/-! ### Runs -/

/-- What can happen while a wait with a timeout is outstanding. -/
inductive Moment (ι : Type) where
  | interrupt
  /-- The clock goes on. -/
  | pass (ticks : Nat)
  /-- Another waiter of the sensor is polled. -/
  | other (name : ι) (waiter : Waiter)
  | poll (name : ι)

/-- What the wait found at one of its polls. -/
structure Look where
  time : Nat
  /-- The flag was raised. -/
  ready : Bool
  /-- The timer had run out. -/
  ranOut : Bool
  found : Waited
  /-- The flag is raised afterwards. -/
  left : Bool
  deriving DecidableEq, Repr

/-- The clock, the flag, and the wait if it has not ended. -/
structure TimedState (ρ τ : Type) where
  time : Nat
  readiness : ρ
  wait : Option (TimedWait τ)

/-- The waiter ends when the flag is raised, and takes it. -/
def Waiter.WaitsForFlag : Waiter → Prop
  | wait => True
  | waitOr _ => True
  | waitTimeout _ => True
  | delay _ => False
  | forward .. => False

namespace Waiter

variable {bridge : Bridge ι ρ} {waiter : Waiter} {readiness : ρ}

theorem progress_poll_of_isReady (hbridge : bridge.Lawful) (hwaits : waiter.WaitsForFlag)
    (name : ι) (now : Nat) (hready : bridge.isReady readiness = true) :
    (waiter.poll bridge name now readiness).progress = .ready := by
  cases waiter with
  | wait =>
    have hfound := hbridge.result_poll name readiness
    rw [if_pos hready] at hfound
    exact congrArg Progress.ofWaited hfound
  | waitOr cancellation =>
    exact congrArg Progress.ofWaited (hbridge.pollOr_of_ready .gate name _ hready).1
  | waitTimeout timer =>
    exact congrArg Progress.ofWaited (hbridge.pollOr_of_ready _ name timer hready).1
  | delay timer => exact hwaits.elim
  | forward edges failed => exact hwaits.elim

theorem isReady_poll_of_not_waitsForFlag (hbridge : bridge.Lawful)
    (hwaits : ¬waiter.WaitsForFlag) (name : ι) (now : Nat)
    (hready : bridge.isReady readiness = true) :
    bridge.isReady (waiter.poll bridge name now readiness).readiness = true := by
  cases waiter with
  | wait => exact absurd trivial hwaits
  | waitOr cancellation => exact absurd trivial hwaits
  | waitTimeout timer => exact absurd trivial hwaits
  | delay timer => exact hready
  | forward edges failed => exact (hbridge.isReady_notifyMany edges readiness).mpr (.inr hready)

end Waiter

namespace Moment

/-- The moment is a poll of the wait. -/
def isPoll : Moment ι → Bool
  | poll _ => true
  | interrupt => false
  | pass _ => false
  | other .. => false

/-- The flag may be taken on behalf of another waiter. -/
def MayTake : Moment ι → Prop
  | other _ waiter => waiter.WaitsForFlag
  | interrupt => False
  | pass _ => False
  | poll _ => False

end Moment

namespace TimedState

variable (bridge : Bridge ι ρ) (alarm : Alarm τ)

/-- Polls the wait, which is gone if it ends. -/
def pollWait (name : ι) (wait : TimedWait τ) (state : TimedState ρ τ) : Look × TimedState ρ τ :=
  let polled := wait.poll bridge alarm name state.time state.readiness
  (⟨state.time, bridge.isReady state.readiness, wait.ranOut alarm state.time, polled.found,
      bridge.isReady polled.readiness⟩,
    ⟨state.time, polled.readiness, if polled.found = .pending then some polled.wait else none⟩)

/-- The state after a moment, and the look of the wait if the moment is a poll of it. -/
def step (state : TimedState ρ τ) : Moment ι → Option Look × TimedState ρ τ
  | .interrupt => (none, { state with readiness := (bridge.notify state.readiness).2 })
  | .pass ticks => (none, { state with time := state.time + ticks })
  | .other name waiter =>
    (none, { state with
      readiness := (waiter.poll bridge name state.time state.readiness).readiness })
  | .poll name =>
    match state.wait with
    | none => (none, state)
    | some wait =>
      let (look, next) := state.pollWait bridge alarm name wait
      (some look, next)

/-- Lets moments follow each other, and collects the looks. -/
def runAll (state : TimedState ρ τ) : List (Moment ι) → List Look × TimedState ρ τ
  | [] => ([], state)
  | moment :: rest =>
    let (look, next) := state.step bridge alarm moment
    let (looks, last) := next.runAll rest
    (look.toList ++ looks, last)

end TimedState

/-! ### One look -/

/-- What the look found is what was due: the flag comes before the timer, and is clear
afterwards. -/
structure Look.Due (look : Look) : Prop where
  ready : look.found = .ready ↔ look.ready = true
  interrupted : look.found = .interrupted ↔ look.ready = false ∧ look.ranOut = true
  pending : look.found = .pending ↔ look.ready = false ∧ look.ranOut = false
  clear : look.left = false

namespace TimedState

variable {bridge : Bridge ι ρ} (alarm : Alarm τ)

theorem due_pollWait (hbridge : bridge.Lawful) (name : ι) (wait : TimedWait τ)
    (state : TimedState ρ τ) : (state.pollWait bridge alarm name wait).1.Due := by
  have hfound := wait.found_poll alarm name state.time hbridge state.readiness
  have hclear := wait.isReady_poll alarm name state.time hbridge state.readiness
  obtain ⟨look, hlook⟩ : ∃ look, (state.pollWait bridge alarm name wait).1 = look := ⟨_, rfl⟩
  have hfound : look.found
      = if look.ready then .ready else if look.ranOut then .interrupted else .pending := by
    subst hlook
    exact hfound
  have hclear : look.left = false := by
    subst hlook
    exact hclear
  rw [hlook]
  constructor
  case clear => exact hclear
  all_goals
    rw [hfound]
    cases look.ready <;> cases look.ranOut <;> decide

theorem isSome_wait_pollWait (name : ι) (wait : TimedWait τ) (state : TimedState ρ τ) :
    (state.pollWait bridge alarm name wait).2.wait.isSome = true ↔
      (state.pollWait bridge alarm name wait).1.found = .pending := by
  simp only [pollWait]
  split
  · exact ⟨fun _ => ‹_›, fun _ => rfl⟩
  · exact ⟨nofun, fun hpending => absurd hpending ‹_›⟩

/-- A moment that is no poll of an outstanding wait leaves the wait alone.  The clock does not
go back. -/
structure Quiet (state next : TimedState ρ τ) : Prop where
  wait : next.wait = state.wait
  time : state.time ≤ next.time

variable (bridge) in
/-- The first moment of a run is quiet, or a poll of the wait. -/
theorem runAll_cons_cases (moment : Moment ι) (rest : List (Moment ι)) (state : TimedState ρ τ) :
    (∃ next, state.Quiet next ∧ (moment.isPoll = true → state.wait = none) ∧
      state.runAll bridge alarm (moment :: rest) = next.runAll bridge alarm rest) ∨
    ∃ name wait, moment = .poll name ∧ state.wait = some wait ∧
      state.runAll bridge alarm (moment :: rest)
        = ((state.pollWait bridge alarm name wait).1
            :: ((state.pollWait bridge alarm name wait).2.runAll bridge alarm rest).1,
          ((state.pollWait bridge alarm name wait).2.runAll bridge alarm rest).2) := by
  let next := (state.step bridge alarm moment).2
  cases moment with
  | interrupt => exact .inl ⟨next, ⟨rfl, Nat.le_refl _⟩, nofun, rfl⟩
  | pass ticks => exact .inl ⟨next, ⟨rfl, Nat.le_add_right ..⟩, nofun, rfl⟩
  | other name waiter => exact .inl ⟨next, ⟨rfl, Nat.le_refl _⟩, nofun, rfl⟩
  | poll name =>
    obtain ⟨time, readiness, wait⟩ := state
    cases wait with
    | none => exact .inl ⟨next, ⟨rfl, Nat.le_refl _⟩, fun _ => rfl, rfl⟩
    | some wait => exact .inr ⟨name, wait, rfl, rfl, rfl⟩

/-! ### All looks of a run -/

variable {alarm}

theorem due_of_mem_runAll (hbridge : bridge.Lawful) {moments : List (Moment ι)}
    {state : TimedState ρ τ} {look : Look} (h : look ∈ (state.runAll bridge alarm moments).1) :
    look.Due := by
  induction moments generalizing state with
  | nil => exact absurd h List.not_mem_nil
  | cons moment rest ih =>
    rcases state.runAll_cons_cases bridge alarm moment rest with
      ⟨next, -, -, hrun⟩ | ⟨name, wait, -, -, hrun⟩
    · rw [hrun] at h
      exact ih h
    · rw [hrun] at h
      rcases List.mem_cons.mp h with rfl | hlater
      · exact due_pollWait alarm hbridge name wait state
      · exact ih hlater

/-- A wait that has ended takes no look. -/
theorem runAll_ended (moments : List (Moment ι)) {state : TimedState ρ τ}
    (h : state.wait = none) : (state.runAll bridge alarm moments).1 = [] := by
  induction moments generalizing state with
  | nil => rfl
  | cons moment rest ih =>
    rcases state.runAll_cons_cases bridge alarm moment rest with
      ⟨next, hquiet, -, hrun⟩ | ⟨_, _, -, hwait, -⟩
    · rw [hrun]
      exact ih (hquiet.wait.trans h)
    · exact absurd (hwait.symm.trans h) (Option.some_ne_none _)

/-- After a look that was not pending there is no other. -/
theorem eq_nil_of_not_pending {moments : List (Moment ι)} {state : TimedState ρ τ}
    {earlier later : List Look} {look : Look}
    (h : (state.runAll bridge alarm moments).1 = earlier ++ look :: later)
    (hfound : look.found ≠ .pending) : later = [] := by
  induction moments generalizing state earlier with
  | nil => exact absurd h.symm (List.append_ne_nil_of_right_ne_nil _ (List.cons_ne_nil _ _))
  | cons moment rest ih =>
    rcases state.runAll_cons_cases bridge alarm moment rest with
      ⟨next, -, -, hrun⟩ | ⟨name, wait, -, -, hrun⟩
    · rw [hrun] at h
      exact ih h
    · rw [hrun] at h
      cases earlier with
      | nil =>
        obtain ⟨hlook, hlater⟩ := List.cons.inj h
        have hended : (state.pollWait bridge alarm name wait).2.wait = none := by
          rw [← Option.not_isSome_iff_eq_none, isSome_wait_pollWait, hlook]
          exact hfound
        exact hlater.symm.trans (runAll_ended rest hended)
      | cons first earlier => exact ih (List.cons.inj h).2

/-- The wait is outstanding as long as its looks are pending. -/
theorem isSome_wait_runAll (moments : List (Moment ι)) (state : TimedState ρ τ) :
    (state.runAll bridge alarm moments).2.wait.isSome = true ↔
      state.wait.isSome = true ∧
        ∀ look ∈ (state.runAll bridge alarm moments).1, look.found = .pending := by
  induction moments generalizing state with
  | nil => exact (and_iff_left fun _ hmem => absurd hmem List.not_mem_nil).symm
  | cons moment rest ih =>
    rcases state.runAll_cons_cases bridge alarm moment rest with
      ⟨next, hquiet, -, hrun⟩ | ⟨name, wait, -, hwait, hrun⟩
    · rw [hrun, ih, hquiet.wait]
    · rw [hrun, hwait, ih, isSome_wait_pollWait, List.forall_mem_cons]
      exact (and_iff_right rfl).symm

/-- While the wait is outstanding, each of its polls is a look. -/
theorem length_runAll {moments : List (Moment ι)} {state : TimedState ρ τ}
    (h : (state.runAll bridge alarm moments).2.wait.isSome = true) :
    (state.runAll bridge alarm moments).1.length = moments.countP Moment.isPoll := by
  induction moments generalizing state with
  | nil => rfl
  | cons moment rest ih =>
    have hwait := ((isSome_wait_runAll _ state).mp h).1
    rcases state.runAll_cons_cases bridge alarm moment rest with
      ⟨next, -, hpoll, hrun⟩ | ⟨name, wait, rfl, -, hrun⟩
    · rw [hrun] at h ⊢
      have hother : ¬moment.isPoll = true := fun his => by
        rw [hpoll his] at hwait
        exact nomatch hwait
      rw [ih h, List.countP_cons_of_neg hother]
    · rw [hrun] at h ⊢
      rw [List.length_cons, ih h, List.countP_cons_of_pos rfl]

/-! ### The clock -/

/-- The timer of the wait was made at the time `start`, and polled at times in order. -/
def Started (alarm : Alarm τ) (start duration : Nat) (state : TimedState ρ τ) : Prop :=
  ∃ times, (start :: times).Pairwise (· ≤ ·) ∧ (∀ time ∈ start :: times, time ≤ state.time) ∧
    ∀ wait, state.wait = some wait →
      wait = .running (alarm.after (alarm.start start duration) times)

namespace Started

variable {start duration : Nat} {state next : TimedState ρ τ}

theorem of_start (htime : start ≤ state.time)
    (hwait : state.wait = some (.running (alarm.start start duration))) :
    state.Started alarm start duration := by
  refine ⟨[], List.pairwise_singleton .., ?_, ?_⟩
  · intro time hmem
    rw [List.mem_singleton.mp hmem]
    exact htime
  · intro wait h
    exact (Option.some.inj (hwait.symm.trans h)).symm

theorem quiet (h : state.Started alarm start duration) (hquiet : state.Quiet next) :
    next.Started alarm start duration := by
  obtain ⟨times, htimes, hpast, htimer⟩ := h
  refine ⟨times, htimes, fun time hmem => Nat.le_trans (hpast time hmem) hquiet.time, ?_⟩
  exact fun wait hwait => htimer wait (hquiet.wait.symm.trans hwait)

theorem pollWait (hbridge : bridge.Lawful) (h : state.Started alarm start duration)
    {wait : TimedWait τ} (hwait : state.wait = some wait) (name : ι) :
    (state.pollWait bridge alarm name wait).2.Started alarm start duration := by
  obtain ⟨times, htimes, hpast, htimer⟩ := h
  obtain rfl := htimer wait hwait
  refine ⟨times ++ [state.time], ?_, ?_, ?_⟩
  · rw [← List.cons_append, List.pairwise_append]
    refine ⟨htimes, List.pairwise_singleton .., ?_⟩
    intro time hmem now hnow
    rw [List.mem_singleton.mp hnow]
    exact hpast time hmem
  · intro time hmem
    rw [← List.cons_append, List.mem_append, List.mem_singleton] at hmem
    exact hmem.elim (hpast time) Nat.le_of_eq
  · intro wait hwait
    simp only [TimedState.pollWait] at hwait
    split at hwait
    · rename_i hpending
      -- a wait goes on only if it has found the flag clear, and then it has looked at its timer
      have hclear := ((due_pollWait alarm hbridge name _ state).pending.mp hpending).1
      rw [← Option.some.inj hwait, Alarm.after_concat]
      exact TimedWait.wait_poll alarm name state.time _ hbridge hclear
    · exact nomatch hwait

/-- No look finds the timer run out before the deadline. -/
theorem le_time_of_mem (hbridge : bridge.Lawful) (h : state.Started alarm start duration)
    (halarm : alarm.NeverEarly) (hfits : start + duration < UInt64.size)
    {moments : List (Moment ι)} {look : Look}
    (hmem : look ∈ (state.runAll bridge alarm moments).1) (hranOut : look.ranOut = true) :
    start + duration ≤ look.time := by
  induction moments generalizing state with
  | nil => exact absurd hmem List.not_mem_nil
  | cons moment rest ih =>
    rcases state.runAll_cons_cases bridge alarm moment rest with
      ⟨next, hquiet, -, hrun⟩ | ⟨name, wait, -, hwait, hrun⟩
    · rw [hrun] at hmem
      exact ih (h.quiet hquiet) hmem
    · rw [hrun] at hmem
      rcases List.mem_cons.mp hmem with rfl | hlater
      · obtain ⟨times, htimes, hpast, htimer⟩ := h
        obtain rfl := htimer wait hwait
        exact halarm start duration times state.time hfits htimes hpast hranOut
      · exact ih (pollWait hbridge h hwait name) hlater

end Started

/-- A wait that has not been polled has its deadline from the time of its first look. -/
theorem le_time_of_mem_runAll (hbridge : bridge.Lawful) (halarm : alarm.NeverEarly) {duration : Nat}
    {moments : List (Moment ι)} {state : TimedState ρ τ}
    (hfresh : state.wait = some (.fresh duration)) {first look : Look}
    (hfirst : (state.runAll bridge alarm moments).1.head? = some first)
    (hfits : first.time + duration < UInt64.size)
    (hmem : look ∈ (state.runAll bridge alarm moments).1) (hranOut : look.ranOut = true) :
    first.time + duration ≤ look.time := by
  induction moments generalizing state with
  | nil => exact nomatch hfirst
  | cons moment rest ih =>
    rcases state.runAll_cons_cases bridge alarm moment rest with
      ⟨next, hquiet, -, hrun⟩ | ⟨name, wait, rfl, hwait, hrun⟩
    · rw [hrun] at hfirst hmem
      exact ih (hquiet.wait.trans hfresh) hfirst hmem
    · rw [hrun] at hfirst
      obtain rfl := Option.some.inj hfirst
      -- the first look makes the timer, so that the wait could as well have been running
      let running : TimedState ρ τ :=
        { state with wait := some (.running (alarm.start state.time duration)) }
      have hrunning : running.runAll bridge alarm (.poll name :: rest)
          = state.runAll bridge alarm (.poll name :: rest) := by
        obtain ⟨time, readiness, _⟩ := state
        obtain rfl := hfresh
        rfl
      rw [← hrunning] at hmem
      have hstarted : running.Started alarm state.time duration :=
        Started.of_start (Nat.le_refl _) rfl
      exact Started.le_time_of_mem hbridge hstarted halarm hfits hmem hranOut

/-! ### The flag after the wait -/

/-- A raised flag stays raised while nobody who may take it is polled. -/
theorem isReady_runAll (hbridge : bridge.Lawful) {moments : List (Moment ι)}
    {state : TimedState ρ τ} (hready : bridge.isReady state.readiness = true)
    (hended : state.wait = none) (hmoments : ∀ moment ∈ moments, ¬moment.MayTake) :
    bridge.isReady (state.runAll bridge alarm moments).2.readiness = true := by
  induction moments generalizing state with
  | nil => exact hready
  | cons moment rest ih =>
    obtain ⟨hmoment, hrest⟩ := List.forall_mem_cons.mp hmoments
    obtain ⟨time, readiness, _⟩ := state
    obtain rfl := hended
    cases moment with
    | interrupt => exact ih (hbridge.isReady_notify readiness) rfl hrest
    | pass ticks => exact ih hready rfl hrest
    | other name waiter =>
      exact ih (Waiter.isReady_poll_of_not_waitsForFlag hbridge hmoment name time hready) rfl hrest
    | poll name => exact ih hready rfl hrest

/-- What the looks of a wait of at most `ms` milliseconds are, and what it leaves behind. -/
structure InTime (bridge : Bridge ι ρ) (alarm : Alarm τ) (ms : Nat) (moments : List (Moment ι))
    (looks : List Look) (last : TimedState ρ τ) : Prop where
  due : ∀ look ∈ looks, look.Due
  outstanding : last.wait.isSome = true ↔ ∀ look ∈ looks, look.found = .pending
  /-- As long as the wait is outstanding, each of its polls was a look. -/
  polled : last.wait.isSome = true → looks.length = moments.countP Moment.isPoll
  /-- The first look that is not pending ends the wait. -/
  ends : ∀ earlier look later, looks = earlier ++ look :: later → look.found ≠ .pending →
    later = []
  /-- The time runs from the first look. -/
  notEarly : ∀ first, looks.head? = some first → ms * alarm.rate < UInt64.size →
    first.time + alarm.ticks ms < UInt64.size → ∀ look ∈ looks, look.found = .interrupted →
      first.time * 1000 + ms * alarm.rate ≤ look.time * 1000
  /-- An interrupt after a wait that gave up is there for the wait that is polled next. -/
  delivered : ∀ look ∈ looks, look.found = .interrupted →
    ∀ later, (∀ moment ∈ later, ¬moment.MayTake) →
      let after := (last.runAll bridge alarm (.interrupt :: later)).2
      ∀ name now,
        (∀ next : Waiter, next.WaitsForFlag →
          (next.poll bridge name now after.readiness).progress = .ready) ∧
        ∀ next : TimedWait τ, (next.poll bridge alarm name now after.readiness).found = .ready

end TimedState

/-- Whatever happens while a wait with a timeout is outstanding, it ends at the first of its
polls that finds the flag raised or the timer run out.  A raised flag comes first, and it is
taken; the wait gives up with the flag clear, never before its time, and an interrupt after
that is there for the next wait. -/
theorem timed_wait_in_time (bridge : Bridge ι ρ) (hbridge : bridge.Lawful) (alarm : Alarm τ)
    (halarm : alarm.NeverEarly) (hrounds : alarm.RoundsUp) (ms time : Nat) (readiness : ρ)
    (moments : List (Moment ι)) :
    let run := TimedState.runAll bridge alarm
      ⟨time, readiness, some (.ofMilliseconds alarm ms)⟩ moments
    TimedState.InTime bridge alarm ms moments run.1 run.2 := by
  intro run
  constructor
  case due => exact fun look => TimedState.due_of_mem_runAll hbridge
  case outstanding => exact (TimedState.isSome_wait_runAll moments _).trans (and_iff_right rfl)
  case polled => exact TimedState.length_runAll
  case ends => exact fun earlier look later => TimedState.eq_nil_of_not_pending
  case notEarly =>
    intro first hfirst hrate hfits look hmem hfound
    have hranOut := ((TimedState.due_of_mem_runAll hbridge hmem).interrupted.mp hfound).2
    have htime :=
      TimedState.le_time_of_mem_runAll hbridge halarm rfl hfirst hfits hmem hranOut
    have hticks := hrounds ms hrate
    omega
  case delivered =>
    intro look hmem hfound later hlater after name now
    have hended : run.2.wait = none := by
      rw [← Option.not_isSome_iff_eq_none, TimedState.isSome_wait_runAll]
      intro h
      exact nomatch hfound.symm.trans (h.2 look hmem)
    let raised : TimedState ρ τ :=
      { run.2 with readiness := (bridge.notify run.2.readiness).2 }
    have hready : bridge.isReady (raised.runAll bridge alarm later).2.readiness = true :=
      TimedState.isReady_runAll hbridge (hbridge.isReady_notify _) hended hlater
    refine ⟨?_, ?_⟩
    · exact fun next hwaits =>
        Waiter.progress_poll_of_isReady hbridge hwaits name now hready
    · exact fun next => next.found_poll_of_ready alarm name now hbridge hready

/-- A wait of 5 ms that gives up just in time, and an interrupt that comes afterwards, for
another wait of 5 ms. -/
theorem timed_wait_in_time_just :
    let moments : List (Moment Nat) :=
      [.pass 50, .poll 1, .pass 4999, .other 2 .wait, .poll 1, .pass 1, .poll 1]
    let run := TimedState.runAll Readiness.bridge Timer.alarm
      ⟨100, .awaited 3, some (.ofMilliseconds Timer.alarm 5)⟩ moments
    let after := (run.2.runAll Readiness.bridge Timer.alarm [.interrupt, .pass 7, .poll 1]).2
    (Readiness.bridge : Bridge Nat (Readiness Nat)).Lawful ∧ Timer.alarm.NeverEarly ∧
      Timer.alarm.RoundsUp ∧
      run.1 = [⟨150, false, false, .pending, false⟩, ⟨5149, false, false, .pending, false⟩,
        ⟨5150, false, true, .interrupted, false⟩] ∧
      150 * 1000 + 5 * 1000000 ≤ 5150 * 1000 ∧
      ((Waiter.waitTimeout (Timer.ofMilliseconds 5)).poll Readiness.bridge 2 after.time
        after.readiness).progress = .ready := by
  intro moments run after
  have hin := timed_wait_in_time Readiness.bridge Readiness.bridge_lawful Timer.alarm
    Timer.alarm_neverEarly Timer.alarm_roundsUp 5 100 (.awaited 3) moments
  have hlooks : run.1 = [⟨150, false, false, .pending, false⟩,
      ⟨5149, false, false, .pending, false⟩, ⟨5150, false, true, .interrupted, false⟩] := by
    decide
  have hlast : (⟨5150, false, true, .interrupted, false⟩ : Look) ∈ run.1 := by
    rw [hlooks]
    decide
  refine ⟨Readiness.bridge_lawful, Timer.alarm_neverEarly, Timer.alarm_roundsUp, hlooks, ?_, ?_⟩
  · have hrate : Timer.alarm.rate = 1000000 := rfl
    have hfits : 5 * Timer.alarm.rate < UInt64.size := by decide
    have hdeadline : 150 + Timer.alarm.ticks 5 < UInt64.size := by decide
    have htime := hin.notEarly ⟨150, false, false, .pending, false⟩ (congrArg List.head? hlooks)
      hfits hdeadline _ hlast rfl
    exact hrate ▸ htime
  · have hnobody : ∀ moment ∈ ([.pass 7, .poll 1] : List (Moment Nat)), ¬moment.MayTake := by
      simp [Moment.MayTake]
    have hnext := (hin.delivered _ hlast rfl _ hnobody 2 after.time).2
      (.ofMilliseconds Timer.alarm 5)
    have hwaiter := TimedWait.poll_waiter Readiness.bridge 2 after.time after.readiness
      (.ofMilliseconds Timer.alarm 5)
    rw [TimedWait.waiter_ofMilliseconds] at hwaiter
    exact (congrArg Waiter.Polled.progress hwaiter).trans (congrArg Waiter.Progress.ofWaited hnext)

/-- A flag that is raised long after the time is taken, though the timer has run out as well. -/
example : (TimedState.runAll Readiness.bridge Timer.alarm
    ⟨0, .idle, some (.ofMilliseconds Timer.alarm 5)⟩
    [.poll 1, .pass 90000, .interrupt, .poll (1 : Nat)]).1
      = [⟨0, false, false, .pending, false⟩, ⟨90000, true, true, .ready, false⟩] := by
  decide

end SensorLink

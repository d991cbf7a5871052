/-
No data-ready occurrence is lost, told twice or made up.

An occurrence is an interrupt, or an edge that a forwarder finds.  It is outstanding until a
wait takes it.  After every history of several sensors, the flag of a sensor is raised just
if an occurrence is outstanding there; polls that are pending, waits that are cancelled or
dropped, transfers and whatever happens at the other sensors do not change that.

* `Outstanding` — an occurrence since the flag was last taken;
* `Sensors.ready_runAll` — the flag after a run;
* `Sensors.runAll_split` — a history that is cut at an entry, and the runs on both sides;
* `Sensors.exists_raisesAt_between` — between two takes there is an occurrence;
* `occurrences_kept` — the account of the occurrences after any run.
-/
import SensorLink.Proofs.Readiness.Sensors

namespace SensorLink

variable {ω ε μ ι κ ρ : Type}

/-- The flag of a sensor was raised, and has not been taken since. -/
def Outstanding (sensor : κ) (history : List (Entry κ μ ι ε)) : Prop :=
  ∃ before entry after, history = before ++ entry :: after ∧ entry.RaisesAt sensor ∧
    ∀ later ∈ after, ¬later.TakesAt sensor

theorem not_outstanding_nil (sensor : κ) : ¬Outstanding sensor ([] : List (Entry κ μ ι ε)) := by
  rintro ⟨before, entry, after, hnil, _⟩
  exact absurd hnil.symm (List.append_ne_nil_of_right_ne_nil _ (List.cons_ne_nil _ _))

theorem outstanding_cons (sensor : κ) (entry : Entry κ μ ι ε) (history : List (Entry κ μ ι ε)) :
    Outstanding sensor (entry :: history) ↔ Outstanding sensor history ∨
      entry.RaisesAt sensor ∧ ∀ later ∈ history, ¬later.TakesAt sensor := by
  constructor
  · rintro ⟨before, raising, after, hsplit, hraises, hlater⟩
    cases before with
    | nil =>
      obtain ⟨rfl, rfl⟩ := List.cons.inj hsplit
      exact .inr ⟨hraises, hlater⟩
    | cons first before =>
      obtain ⟨rfl, rfl⟩ := List.cons.inj hsplit
      exact .inl ⟨before, raising, after, rfl, hraises, hlater⟩
  · rintro (⟨before, raising, after, rfl, hraises, hlater⟩ | ⟨hraises, hlater⟩)
    · exact ⟨entry :: before, raising, after, rfl, hraises, hlater⟩
    · exact ⟨[], entry, history, rfl, hraises, hlater⟩

theorem Outstanding.exists_raisesAt {sensor : κ} {history : List (Entry κ μ ι ε)}
    (h : Outstanding sensor history) : ∃ entry ∈ history, entry.RaisesAt sensor := by
  obtain ⟨before, entry, after, rfl, hraises, _⟩ := h
  exact ⟨entry, List.mem_append_right _ List.mem_cons_self, hraises⟩

namespace Sensors

variable [DecidableEq κ] [DecidableEq ι] {bridge : Bridge ι ρ} (buses : κ → RegisterBus ω ε)
  (boundary : Boundary μ)

/-- A history that is cut at an entry comes of a run before, of the step of the entry, and of
a run after it. -/
theorem runAll_split {happenings : List (κ × Happening μ ι)} {sensors : Sensors κ ω μ ι ρ}
    {before after : List (Entry κ μ ι ε)} {entry : Entry κ μ ι ε}
    (h : (sensors.runAll bridge buses boundary happenings).1 = before ++ entry :: after) :
    ∃ earlier later,
      let reached := (sensors.runAll bridge buses boundary earlier).2
      let next := reached.step bridge buses boundary entry.sensor entry.happening
      (sensors.runAll bridge buses boundary earlier).1 = before ∧ next.1 = entry ∧
        (next.2.runAll bridge buses boundary later).1 = after := by
  induction before generalizing happenings sensors with
  | nil =>
    cases happenings with
    | nil => exact nomatch h
    | cons happening rest =>
      obtain ⟨rfl, rfl⟩ := List.cons.inj h
      exact ⟨[], rest, rfl, rfl, rfl⟩
  | cons first before ih =>
    cases happenings with
    | nil => exact nomatch h
    | cons happening rest =>
      obtain ⟨rfl, hrest⟩ := List.cons.inj h
      obtain ⟨earlier, later, hbefore, hentry, hafter⟩ := ih hrest
      exact ⟨happening :: earlier, later, congrArg _ hbefore, hentry, hafter⟩

section Laws

variable (hbridge : bridge.Lawful)
include hbridge

/-- After a run the flag of a sensor is raised if an occurrence is outstanding, or if it was
raised before the run and none of its waits has taken it. -/
theorem ready_runAll (sensor : κ) (happenings : List (κ × Happening μ ι))
    (sensors : Sensors κ ω μ ι ρ) :
    ((sensors.runAll bridge buses boundary happenings).2 sensor).ready bridge = true ↔
      Outstanding sensor (sensors.runAll bridge buses boundary happenings).1 ∨
        (sensors sensor).ready bridge = true ∧
          ∀ entry ∈ (sensors.runAll bridge buses boundary happenings).1,
            ¬entry.TakesAt sensor := by
  induction happenings generalizing sensors with
  | nil =>
    refine ⟨fun hready => .inr ⟨hready, fun _ hmem => absurd hmem List.not_mem_nil⟩, ?_⟩
    exact fun h => (h.resolve_left (not_outstanding_nil sensor)).1
  | cons happening rest ih =>
    obtain ⟨place, happening⟩ := happening
    simp only [runAll]
    rw [ih, ready_step hbridge, outstanding_cons, List.forall_mem_cons, or_and_right, and_assoc,
      or_assoc]

/-- A take leaves the flag clear, so that only an occurrence after it allows another. -/
theorem exists_raisesAt_between {happenings : List (κ × Happening μ ι)}
    {sensors : Sensors κ ω μ ι ρ} {before between after : List (Entry κ μ ι ε)}
    {first second : Entry κ μ ι ε} {sensor : κ}
    (h : (sensors.runAll bridge buses boundary happenings).1
      = before ++ first :: (between ++ second :: after))
    (hfirst : first.TakesAt sensor) (hsecond : second.TakesAt sensor) :
    ∃ entry ∈ between, entry.RaisesAt sensor := by
  obtain ⟨_, later, _, hstep, hafter⟩ := runAll_split buses boundary h
  obtain ⟨earlier, _, hbetween, hnext, _⟩ := runAll_split buses boundary hafter
  have hready := ready_of_takesAt hbridge buses boundary (hnext.symm ▸ hsecond)
  rw [ready_runAll buses boundary hbridge, hbetween, ready_step hbridge, hstep] at hready
  rcases hready with houtstanding | ⟨hraises | ⟨_, htakes⟩, _⟩
  · exact houtstanding.exists_raisesAt
  · exact absurd hraises hfirst.not_raisesAt
  · exact absurd hfirst htakes

end Laws

/-- The account of the occurrences at a sensor after a history. -/
structure Accounted (bridge : Bridge ι ρ) (buses : κ → RegisterBus ω ε) (boundary : Boundary μ)
    (history : List (Entry κ μ ι ε)) (sensors : Sensors κ ω μ ι ρ) (sensor : κ) : Prop where
  flag : (sensors sensor).ready bridge = true ↔ Outstanding sensor history
  look : (sensors.step bridge buses boundary sensor .look).1.seen
    = .flag ((sensors sensor).ready bridge)
  poll : ∀ waiter wait cancelled, (sensors sensor).waits waiter = some wait →
    let polled := sensors.step bridge buses boundary sensor (.poll waiter cancelled)
    (polled.1.seen.waited? = some .ready ↔ (sensors sensor).ready bridge = true) ∧
      (polled.1.seen.waited? = some .interrupted ↔
        (sensors sensor).ready bridge = false ∧ wait.givesUp = true ∧ cancelled = true) ∧
      (polled.1.seen.waited? = some .pending ↔
        (sensors sensor).ready bridge = false ∧ ¬(wait.givesUp = true ∧ cancelled = true)) ∧
      (polled.2 sensor).ready bridge = false
  kept : ∀ place happening,
    let next := sensors.step bridge buses boundary place happening
    ¬next.1.RaisesAt sensor → ¬next.1.TakesAt sensor →
      (next.2 sensor).ready bridge = (sensors sensor).ready bridge
  apart : ∀ before first between second after,
    history = before ++ first :: (between ++ second :: after) →
      first.TakesAt sensor → second.TakesAt sensor → ∃ entry ∈ between, entry.RaisesAt sensor

end Sensors

/-- After whatever happens at several sensors, the flag of each is raised just if an
occurrence is outstanding there.  A poll ends a wait well just if the flag is raised, even
for a wait that is cancelled by then, and clears it; it gives up just if the flag is clear
and the wait is cancelled.  Nothing else clears or raises the flag, and between two waits
that ended well there was an occurrence. -/
theorem occurrences_kept [DecidableEq κ] [DecidableEq ι] (bridge : Bridge ι ρ)
    (hbridge : bridge.Lawful) (buses : κ → RegisterBus ω ε) (boundary : Boundary μ)
    (stagings : κ → Staging) (worlds : κ → ω) (happenings : List (κ × Happening μ ι)) :
    let run := (Sensors.opened bridge stagings worlds).runAll bridge buses boundary happenings
    ∀ sensor, run.2.Accounted bridge buses boundary run.1 sensor := by
  intro run sensor
  constructor
  case flag =>
    refine (Sensors.ready_runAll buses boundary hbridge sensor happenings _).trans ?_
    exact or_iff_left fun hopened => nomatch hopened.1.symm.trans hbridge.isReady_idle
  case look => rfl
  case poll =>
    intro waiter wait cancelled hwait polled
    obtain ⟨hwaited, hclear⟩ :=
      SensorState.waited_poll hbridge (buses sensor) boundary hwait cancelled
    have hclear : (polled.2 sensor).ready bridge = false := by
      rw [← hclear]
      exact congrArg (SensorState.ready bridge) (Function.update_self ..)
    have hwaited : polled.1.seen.waited?
        = some (wait.due ((run.2 sensor).ready bridge) cancelled) := hwaited
    rw [hwaited]
    simp only [Option.some.injEq]
    exact ⟨Wait.due_eq_ready, Wait.due_eq_interrupted, Wait.due_eq_pending, hclear⟩
  case kept =>
    intro place happening next hraises htakes
    have hstep := Sensors.ready_step hbridge buses boundary sensor place happening run.2
    rw [Bool.eq_iff_iff, hstep, or_iff_right hraises, and_iff_left htakes]
  case apart =>
    intro before first between second after hsplit hfirst hsecond
    exact Sensors.exists_raisesAt_between buses boundary hbridge hsplit hfirst hsecond

open Bench in
/-- Two sensors: a cancelled wait takes the flag of the first, a forwarder raises it again, and
a command takes it; the second has an interrupt that nobody has waited for. -/
theorem occurrences_kept_two_sensors :
    let window : Window := ⟨0, #[]⟩
    let happenings : List (Bool × Happening Window Nat) :=
      [(true, .interrupt), (true, .start 7 .cancellable), (true, .poll 7 true),
        (false, .interrupt), (true, .forward 8 2 true), (true, .start 9 (.command 0 window)),
        (true, .poll 9 true), (true, .start 3 .cancellable)]
    let buses := fun _ : Bool => Recorder.registerBus
    let recorder : Recorder := { limit := 1, registers := .zero }
    let run := (Sensors.opened Readiness.bridge (fun _ => .zero _) fun _ => recorder).runAll
      Readiness.bridge buses Window.boundary happenings
    Outstanding false run.1 ∧ ¬Outstanding true run.1 ∧
      (run.2.step Readiness.bridge buses Window.boundary true (.poll 3 true)).1.seen.waited?
        = some .interrupted ∧
      ∃ entry ∈ (run.1.drop 3).take 3, entry.RaisesAt true := by
  intro window happenings buses recorder run
  have hkept := occurrences_kept Readiness.bridge Readiness.bridge_lawful buses Window.boundary
    (fun _ => .zero _) (fun _ => recorder) happenings
  refine ⟨(hkept false).flag.mp rfl, ?_, ?_, ?_⟩
  · exact fun h => nomatch (hkept true).flag.mpr h
  · exact ((hkept true).poll 3 .cancellable true rfl).2.1.mpr ⟨rfl, rfl, rfl⟩
  · exact (hkept true).apart (run.1.take 2) ⟨true, .poll 7 true, .progress .ready⟩ _
      ⟨true, .poll 9 true, .answer (.command (.ok .done) window)⟩
      [⟨true, .start 3 .cancellable, .nothing⟩] rfl ⟨rfl, rfl⟩ ⟨rfl, rfl⟩

end SensorLink

/-
Wrapped buses.

A binding passes every call on to the bus that is bound, and a loan to the bus that is
lent.  So whatever is done with a sensor has the same replies, calls and effects over the
wrapped bus as over the bus itself; a binding only tags the errors of the bus.

* `Job.Transparent` — jobs over a wrapped bus do what they do over the bus itself;
* `Job.transparent_of_sim` — they do if the chunk calls do;
* `Binding.sim_twoWire`, `Binding.sim_fourWire`, `RegisterBus.sim_borrowed` — the wrappers;
* `Binding.select_ok_iff` — a bus is bound iff exactly one was supplied;
* `wrappers_transparent` — the links with two and with four wires, and every loan.
-/
import SensorLink.Proofs.Jobs
import SensorLink.Register.Borrowed

namespace SensorLink

variable {ω ω' ε ε' δ μ ι ρ α β σ τ : Type}

/-! ### Jobs over a wrapped bus -/

/-- Jobs over `wrapped` in the world `w'` do what they do over `bus` in the world `w`: the
replies, with their buffers and the memory of their callers, are the same but for `tag` on
the errors of the bus, and so are the chunk calls; the endpoint ends up the same, and the
world as that of the bus, wrapped again, with whatever was recorded in it. -/
structure Job.Transparent (bridge : Bridge ι ρ) (boundary : Boundary μ) (jobs : List (Job μ ι))
    (endpoint : Endpoint ρ) (bus : RegisterBus ω ε) (w : ω) (wrapped : RegisterBus ω' ε') (w' : ω')
    (tag : ε → ε') (wrap : ω → ω') : Prop where
  chunkSize : wrapped.chunkSize w' = bus.chunkSize w
  addressLimit : wrapped.addressLimit w' = bus.addressLimit w
  replies : (runAll bridge wrapped boundary jobs (endpoint, w')).1
    = (runAll bridge bus boundary jobs (endpoint, w)).1.map (Option.map (Answer.mapError tag))
  calls : Job.calls bridge boundary wrapped jobs endpoint w'
    = (Job.calls bridge boundary bus jobs endpoint w).map (BusCall.mapError tag)
  final : (runAll bridge wrapped boundary jobs (endpoint, w')).2.1
    = (runAll bridge bus boundary jobs (endpoint, w)).2.1
  world : (runAll bridge wrapped boundary jobs (endpoint, w')).2.2
    = wrap (runAll bridge bus boundary jobs (endpoint, w)).2.2

theorem Job.transparent_of_sim (bridge : Bridge ι ρ) {bus : RegisterBus ω ε}
    {wrapped : RegisterBus ω' ε'} {tag : ε → ε'} {wrap : ω → ω'}
    (h : bus.Sim wrapped (fun w w' => w' = wrap w) tag) (boundary : Boundary μ)
    (jobs : List (Job μ ι)) (endpoint : Endpoint ρ) {w : ω} {w' : ω'} (hw : w' = wrap w) :
    Job.Transparent bridge boundary jobs endpoint bus w wrapped w' tag wrap := by
  obtain ⟨replies, endpoint', v, v', hrun, hrun', hv⟩ :=
    sim_runAll bridge h boundary jobs endpoint hw
  have hcalls := calls_of_sim h bridge boundary jobs endpoint hw
  refine ⟨h.chunkSize w w' hw, h.addressLimit w w' hw, ?_, hcalls, ?_, ?_⟩
  · rw [hrun, hrun']
  · rw [hrun, hrun']
  · rw [hrun, hrun', hv]

/-! ### The wrappers -/

namespace Binding

variable (twoWireBus : RegisterBus α ε) (fourWireBus : RegisterBus β δ)

theorem sim_twoWire : twoWireBus.Sim (registerBus twoWireBus fourWireBus)
    (fun link binding => binding = .twoWire link) .twoWire where
  chunkSize := by
    rintro link _ rfl
    rfl
  addressLimit := by
    rintro link _ rfl
    rfl
  readChunk := by
    rintro register buffer link _ rfl
    exact ⟨_, _, _, rfl, rfl, .intro _ rfl⟩
  writeChunk := by
    rintro register data link _ rfl
    exact ⟨_, _, _, rfl, rfl, rfl⟩

theorem sim_fourWire : fourWireBus.Sim (registerBus twoWireBus fourWireBus)
    (fun link binding => binding = .fourWire link) .fourWire where
  chunkSize := by
    rintro link _ rfl
    rfl
  addressLimit := by
    rintro link _ rfl
    rfl
  readChunk := by
    rintro register buffer link _ rfl
    exact ⟨_, _, _, rfl, rfl, .intro _ rfl⟩
  writeChunk := by
    rintro register data link _ rfl
    exact ⟨_, _, _, rfl, rfl, rfl⟩

/-- A bus is bound iff exactly one was supplied. -/
theorem select_ok_iff (first : Option α) (second : Option β) :
    (∃ binding, select first second = .ok binding) ↔ first.isSome ≠ second.isSome := by
  rcases first with _ | first <;> rcases second with _ | second <;> simp [select]

end Binding

/-- The owner of a lent bus finds it at its place, and all else as it was. -/
theorem RegisterBus.sim_borrowed (bus : RegisterBus ω ε) (place : Place σ ω) (s : σ) :
    bus.Sim (bus.borrowed place) (fun w s' => s' = place.set s w) id where
  chunkSize := by
    rintro w _ rfl
    exact congrArg bus.chunkSize (place.get_set s w)
  addressLimit := by
    rintro w _ rfl
    exact congrArg bus.addressLimit (place.get_set s w)
  readChunk := by
    rintro register buffer w _ rfl
    simp only [RegisterBus.borrowed, place.get_set]
    exact .of_eq rfl (.intro _ (place.set_set s w _))
  writeChunk := by
    rintro register data w _ rfl
    simp only [RegisterBus.borrowed, place.get_set]
    exact .of_eq rfl (place.set_set s w _)

/-- Every wrapped bus is transparent.  A binding to two wires tags the errors of the link as
those of two wires, and a binding to four wires as those of four; each has the chunk size and
the address limit of its link.  Controllers are arbitrary: they fail when they like, and one
that records its transactions has recorded the same.  A lent bus does what it does for its
owner, whatever the bus is.  Only one bus at a time can be bound. -/
theorem wrappers_transparent (bridge : Bridge ι ρ) (two : TwoWireBus σ ε)
    (four : FourWireBus τ δ) (boundary : Boundary μ) (jobs : List (Job μ ι))
    (endpoint : Endpoint ρ) :
    let bound := Binding.registerBus (TwoWireLink.registerBus two) (FourWireLink.registerBus four)
    (∀ link : TwoWireLink σ, ∃ binding, Binding.select (some link) none = .ok binding ∧
      bound.chunkSize binding = 1024 ∧ bound.addressLimit binding = 0x10000 ∧
      Job.Transparent bridge boundary jobs endpoint (TwoWireLink.registerBus two) link bound
        binding .twoWire .twoWire) ∧
    (∀ link : FourWireLink τ, ∃ binding, Binding.select none (some link) = .ok binding ∧
      bound.chunkSize binding = 4094 ∧ bound.addressLimit binding = 0x8000 ∧
      Job.Transparent bridge boundary jobs endpoint (FourWireLink.registerBus four) link bound
        binding .fourWire .fourWire) ∧
    (∀ (ω κ η : Type) (bus : RegisterBus ω η) (place : Place κ ω) (s : κ),
      Job.Transparent bridge boundary jobs endpoint bus (place.get s) (bus.borrowed place) s id
        (place.set s)) ∧
    ∀ (first : Option (TwoWireLink σ)) (second : Option (FourWireLink τ)),
      (∃ binding, Binding.select first second = .ok binding) ↔
        first.isSome ≠ second.isSome := by
  intro bound
  refine ⟨?_, ?_, ?_, Binding.select_ok_iff⟩
  · intro link
    exact ⟨.twoWire link, rfl, rfl, rfl,
      Job.transparent_of_sim bridge (Binding.sim_twoWire ..) boundary jobs endpoint rfl⟩
  · intro link
    exact ⟨.fourWire link, rfl, rfl, rfl,
      Job.transparent_of_sim bridge (Binding.sim_fourWire ..) boundary jobs endpoint rfl⟩
  · intro ω κ η bus place s
    exact Job.transparent_of_sim bridge (bus.sim_borrowed place s) boundary jobs endpoint
      (place.set_get s).symm

end SensorLink

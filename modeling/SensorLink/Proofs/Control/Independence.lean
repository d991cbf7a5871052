/-
Transfers that have nothing to do with each other.

Two sensors on buses of their own share the memory of one caller.  A transfer looks at its
record and at the bytes that it moves, and changes these bytes if it is a read.  If neither
transfer changes what the other one looks at, then it does not matter which of them comes
first, not even if one or both of them fail halfway.

* `Client` — an endpoint with its bus and the transfer it is asked for;
* `Client.footprint`, `Client.changes` — what its transfer looks at, and what it may change;
* `Local`, `Local.simOn_boundary` — windows that agree on a footprint, and copies inside of it;
* `Client.transfer_local` — a transfer depends on its footprint only, and stays within what
  it may change;
* `transfers_commute` — the two orders lead to the same.

Design notes.  The argument is about single addresses.  What a transfer has copied when it
fails need not be known: it is the same in both orders, as the transfer sees the same bytes.
-/
import SensorLink.Proofs.Bench.Serving
import SensorLink.Proofs.Control.TransferCorrect
import SensorLink.Proofs.Ranges

namespace SensorLink

variable {β γ ε δ : Type}

/-! ### Clients -/

/-- An endpoint with a bus of its own, which is asked for the transfer whose record is at
`argument`. -/
structure Client (β ε : Type) where
  bus : RegisterBus β ε
  state : β
  staging : Staging
  argument : UInt64

/-- What a transfer tells and leaves behind at its own endpoint. -/
structure Report (β ε : Type) where
  outcome : Outcome (RequestError ε) Unit
  staging : Staging
  state : β
  calls : List (BusCall ε)

namespace Client

/-- Carries out the transfer, taking down the calls on the bus. -/
def transfer (client : Client β ε) (window : Window) : Report β ε × Window :=
  match Endpoint.transfer (client.bus.traced.beside Window)
    (Window.boundary.after (β × List (Event ε))) client.argument client.staging
    ((client.state, []), window) with
  | ⟨outcome, (staging, ((state, log), window))⟩ =>
    (⟨outcome, staging, state, Event.busCalls log⟩, window)

/-- The request that the client is asked for, if its record is in the window. -/
def request (client : Client β ε) (window : Window) : Request :=
  Request.ofContents window.contents client.argument.toNat

/-- The addresses of the bytes that the transfer moves; there are none without a record. -/
def data (client : Client β ε) (window : Window) : Set Nat :=
  {address | window.Holds client.argument.toNat Request.recordLength ∧
    address ∈ Contents.span (client.request window).buffer.toNat
      (client.request window).length.toNat}

/-- The addresses that the transfer looks at: those of its record and of its data. -/
def footprint (client : Client β ε) (window : Window) : Set Nat :=
  Contents.span client.argument.toNat Request.recordLength ∪ client.data window

/-- The addresses that the transfer may change: those of its data, if it is a read. -/
def changes (client : Client β ε) (window : Window) : Set Nat :=
  {address | (client.request window).direction = .read ∧ address ∈ client.data window}

theorem changes_subset (client : Client β ε) (window : Window) :
    client.changes window ⊆ client.footprint window := by
  rintro address ⟨_, hdata⟩
  exact .inr hdata

end Client

/-! ### Windows that agree on a footprint -/

/-- The windows `v` and `v'` have come from `u` and `u'` by changes in `changes`, and are the
same on `footprint`. -/
structure Local (footprint changes : Set Nat) (u u' v v' : Window) : Prop where
  covers : v.Covers = u.Covers
  covers' : v'.Covers = u.Covers
  agree : ∀ address ∈ footprint, v'.contents address = v.contents address
  frame : ∀ address ∉ changes, v.contents address = u.contents address
  frame' : ∀ address ∉ changes, v'.contents address = u'.contents address

namespace Local

variable {footprint changes : Set Nat} {u u' v v' : Window}

/-- The copies that stay local: what comes in is looked at, and what goes out is changed. -/
def Permits (footprint changes : Set Nat) (direction : Direction) (address : UInt64)
    (length : Nat) : Prop :=
  match direction with
  | .write => Contents.span address.toNat length ⊆ footprint
  | .read => Contents.span address.toNat length ⊆ changes

theorem refl (hcovers : u'.Covers = u.Covers)
    (hagree : ∀ address ∈ footprint, u'.contents address = u.contents address) :
    Local footprint changes u u' u u' :=
  ⟨rfl, hcovers, hagree, fun _ _ => rfl, fun _ _ => rfl⟩

theorem covers_iff (h : Local footprint changes u u' v v') (address : UInt64) (length : Nat) :
    v'.Covers address length ↔ v.Covers address length := by
  rw [h.covers', h.covers]

/-- The same bytes are stored at the same place of both windows. -/
theorem store (h : Local footprint changes u u' v v') {address : UInt64} {bytes : Bytes}
    (hcovers : v.Covers address bytes.length)
    (hchanges : Contents.span address.toNat bytes.length ⊆ changes) :
    Local footprint changes u u' (v.store address bytes) (v'.store address bytes) := by
  have hcovers' := (h.covers_iff address bytes.length).mpr hcovers
  refine ⟨?_, ?_, ?_, ?_, ?_⟩
  · rw [Window.covers_store, h.covers]
  · rw [Window.covers_store, h.covers']
  · intro a hmem
    rw [v.contents_store hcovers, v'.contents_store hcovers']
    simp only [Contents.patch, h.agree a hmem]
  · intro a hmem
    rw [v.contents_store hcovers, Contents.patch_of_notMem _ fun hspan => hmem (hchanges hspan)]
    exact h.frame a hmem
  · intro a hmem
    rw [v'.contents_store hcovers', Contents.patch_of_notMem _ fun hspan => hmem (hchanges hspan)]
    exact h.frame' a hmem

/-- Copies that stay local end alike in both windows, and keep them so. -/
theorem simOn_boundary :
    Window.boundary.SimOn Window.boundary (Local footprint changes u u')
      (Permits footprint changes) where
  check address length v v' h := by
    have hcovers := h.covers_iff address length
    by_cases hv : v.Covers address length
    · exact ⟨_, v, v', Window.boundary_check_of_covers hv,
        Window.boundary_check_of_covers (hcovers.mpr hv), h⟩
    · exact ⟨_, v, v', Window.boundary_check_of_not_covers hv,
        Window.boundary_check_of_not_covers (mt hcovers.mp hv), h⟩
  copyIn address length v v' hpermits h := by
    have hcovers := h.covers_iff address length
    by_cases hv : v.Covers address length
    · have hv' := hcovers.mpr hv
      have hfetch : v'.fetch address length hv' = v.fetch address length hv := by
        refine Vector.toList_inj.mp ?_
        rw [v.toList_fetch, v'.toList_fetch]
        exact Contents.read_congr fun a hmem => h.agree a (hpermits hmem)
      refine ⟨_, v, v', Window.boundary_copyIn_of_covers hv, ?_, h⟩
      rw [← hfetch]
      exact Window.boundary_copyIn_of_covers hv'
    · exact ⟨_, v, v', Window.boundary_copyIn_of_not_covers hv,
        Window.boundary_copyIn_of_not_covers (mt hcovers.mp hv), h⟩
  copyOut address bytes v v' hpermits h := by
    have hcovers := h.covers_iff address bytes.length
    by_cases hv : v.Covers address bytes.length
    · exact ⟨_, _, _, Window.boundary_copyOut_of_covers hv,
        Window.boundary_copyOut_of_covers (hcovers.mpr hv), h.store hv hpermits⟩
    · exact ⟨_, v, v', Window.boundary_copyOut_of_not_covers hv,
        Window.boundary_copyOut_of_not_covers (mt hcovers.mp hv), h⟩

end Local

/-! ### One transfer in two windows -/

namespace Client

/-- The blocks of a request lie in its data. -/
theorem permits_block (client : Client β ε) {window : Window}
    (hrecord : window.Holds client.argument.toNat Request.recordLength) {offset length : Nat}
    {address : UInt64}
    (haddress : addressAt (client.request window).buffer offset = some address)
    (hle : offset + length ≤ (client.request window).length.toNat) :
    Local.Permits (client.footprint window) (client.changes window)
      (client.request window).direction address length := by
  have htoNat := toNat_of_addressAt haddress
  have hdata : Contents.span address.toNat length ⊆ client.data window := by
    intro a hmem
    rw [Contents.mem_span] at hmem
    exact ⟨hrecord, by omega, by omega⟩
  rcases hdirection : (client.request window).direction with _ | _
  · intro a hmem
    exact ⟨hdirection, hdata hmem⟩
  · intro a hmem
    exact .inr (hdata hmem)

/-- The bus and its log are the same, and the windows agree on what the client looks at. -/
def Alongside (client : Client β ε) (u u' : Window)
    (p p' : (β × List (Event ε)) × Window) : Prop :=
  p.1 = p'.1 ∧ Local (client.footprint u) (client.changes u) u u' p.2 p'.2

/-- In windows that agree on what it looks at, a transfer runs alike. -/
theorem sim_transfer (client : Client β ε) {u u' : Window} (hcovers : u'.Covers = u.Covers)
    (hagree : ∀ address ∈ client.footprint u, u'.contents address = u.contents address) :
    let bus := client.bus.traced.beside Window
    let boundary := Window.boundary.after (β × List (Event ε))
    Run.Sim (Beside (client.Alongside u u')) (RequestError.map id)
      (Endpoint.transfer bus boundary client.argument client.staging ((client.state, []), u))
      (Endpoint.transfer bus boundary client.argument client.staging ((client.state, []), u')) := by
  intro bus boundary
  have hstart : Local (client.footprint u) (client.changes u) u u' u u' := .refl hcovers hagree
  have hholds := Window.holds_of_covers hcovers client.argument.toNat Request.recordLength
  by_cases hrecord : u.Holds client.argument.toNat Request.recordLength
  · have hrequest : Request.ofContents u'.contents client.argument.toNat = client.request u := by
      have hsame : u'.contents.read client.argument.toNat Request.recordLength
          = u.contents.read client.argument.toNat Request.recordLength :=
        Contents.read_congr fun a hmem => hagree a (.inl hmem)
      simp only [request, Request.ofContents, hsame]
    have hbus : bus.Sim bus (client.Alongside u u') id := client.bus.traced.sim_self.beside
    have hboundary : boundary.SimOn boundary (client.Alongside u u')
        (Local.Permits (client.footprint u) (client.changes u)) := Local.simOn_boundary.after Eq
    have hworlds : client.Alongside u u' ((client.state, []), u) ((client.state, []), u') :=
      ⟨rfl, hstart⟩
    rw [Endpoint.transfer_of_holds hrecord, Endpoint.transfer_of_holds (hholds.mpr hrecord),
      hrequest]
    have hcouple := Endpoint.couple_execute piecewise_eq hbus hbus.fills hboundary
      (client.request u) (fun _ _ _ => client.permits_block hrecord)
      (rfl : client.staging.bytes = client.staging.bytes) hworlds
    exact hcouple.mono fun _ _ => Staged.beside
  · rw [Endpoint.transfer_of_not_holds hrecord,
      Endpoint.transfer_of_not_holds (mt hholds.mp hrecord)]
    exact .error rfl (.intro client.staging ⟨rfl, hstart⟩)

/-- A transfer does the same in windows that agree on its footprint, and changes neither of
them but where it may. -/
theorem transfer_local (client : Client β ε) (u u' : Window) (hcovers : u'.Covers = u.Covers)
    (hagree : ∀ address ∈ client.footprint u, u'.contents address = u.contents address) :
    ∃ report v v', client.transfer u = (report, v) ∧ client.transfer u' = (report, v') ∧
      Local (client.footprint u) (client.changes u) u u' v v' := by
  obtain ⟨outcome, _, _, hrun, hrun', @⟨staging, ⟨⟨state, log⟩, v⟩, ⟨_, v'⟩, rfl, hlocal⟩⟩ :=
    client.sim_transfer hcovers hagree
  rw [outcome.mapError_eq_self RequestError.map_id] at hrun'
  refine ⟨⟨outcome, staging, state, Event.busCalls log⟩, v, v', ?_, ?_, hlocal⟩
  · simp only [transfer, hrun]
  · simp only [transfer, hrun']

end Client

/-! ### Two transfers -/

/-- If neither of two transfers changes what the other one looks at, then each of them does
the same whether it comes first or second, and both orders leave the same window. -/
theorem transfers_commute (p : Client β ε) (q : Client γ δ) (window : Window)
    (hpq : Disjoint (p.changes window) (q.footprint window))
    (hqp : Disjoint (q.changes window) (p.footprint window)) :
    let first := p.transfer window
    let second := q.transfer first.2
    let first' := q.transfer window
    let second' := p.transfer first'.2
    second'.1 = first.1 ∧ second.1 = first'.1 ∧ second'.2 = second.2 := by
  intro first second first' second'
  obtain ⟨_, v, _, hp, _, hpframe⟩ := p.transfer_local window window rfl fun _ _ => rfl
  obtain ⟨_, w, _, hq, _, hqframe⟩ := q.transfer_local window window rfl fun _ _ => rfl
  -- What each transfer leaves behind agrees with the window on what the other one looks at.
  obtain ⟨report, v₁, w', hp₁, hp', hplocal⟩ := p.transfer_local window w
    hqframe.covers fun a hmem => hqframe.frame a (Set.disjoint_right.mp hqp hmem)
  obtain ⟨report', w₁, v', hq₁, hq', hqlocal⟩ := q.transfer_local window v
    hpframe.covers fun a hmem => hpframe.frame a (Set.disjoint_right.mp hpq hmem)
  rw [hp, Prod.mk.injEq] at hp₁
  rw [hq, Prod.mk.injEq] at hq₁
  obtain ⟨rfl, rfl⟩ := hp₁
  obtain ⟨rfl, rfl⟩ := hq₁
  simp only [second', second, first', first, hp, hq, hp', hq']
  refine ⟨trivial, trivial, Window.eq_of_contents ?_ ?_⟩
  · rw [hplocal.covers', hqlocal.covers']
  · funext a
    by_cases hpa : a ∈ p.changes window
    · rw [hplocal.agree a (p.changes_subset window hpa),
        hqlocal.frame' a fun hqa =>
          Set.disjoint_left.mp hpq hpa (q.changes_subset window hqa)]
    · rw [hplocal.frame' a hpa]
      by_cases hqa : a ∈ q.changes window
      · rw [hqlocal.agree a (q.changes_subset window hqa)]
      · rw [hqlocal.frame' a hqa, hpframe.frame a hpa, hqframe.frame a hqa]

open Bench in
/-- A write that fails at its second chunk, and a read into the bytes that follow those of
the write. -/
theorem transfers_commute_failing :
    let p : Client Recorder Unit := ⟨Recorder.registerBus,
      { limit := 2, registers := .zero, failOn := some 1 }, Scratch.zero _, 0x1000⟩
    let q : Client Recorder Unit := ⟨Recorder.registerBus,
      { limit := 4, registers := .zero }, Scratch.zero _, 0x1010⟩
    let window : Window := ⟨0x1000, #[4, 0, 0x20, 0, 1, 0, 0, 0, 0x20, 0x10, 0, 0, 0, 0, 0, 0,
      4, 0, 0x40, 0, 0, 0, 0, 0, 0x24, 0x10, 0, 0, 0, 0, 0, 0, 1, 2, 3, 4, 5, 6, 7, 8]⟩
    (p.transfer window).1.outcome = .error (.access (.bus .write 2 ())) ∧
      (p.transfer (q.transfer window).2).1 = (p.transfer window).1 ∧
      (q.transfer (p.transfer window).2).1 = (q.transfer window).1 ∧
      (p.transfer (q.transfer window).2).2 = (q.transfer (p.transfer window).2).2 := by
  intro p q window
  have houtcome : (p.transfer window).1.outcome = .error (.access (.bus .write 2 ())) := by
    decide +kernel
  have hp : p.request window = ⟨4, 0x20, .write, 0x1020⟩ := by decide +kernel
  have hq : q.request window = ⟨4, 0x40, .read, 0x1024⟩ := by decide +kernel
  have hpq : Disjoint (p.changes window) (q.footprint window) := by
    refine Set.disjoint_left.mpr ?_
    rintro a ⟨hread, _⟩
    rw [hp] at hread
    cases hread
  have hqp : Disjoint (q.changes window) (p.footprint window) := by
    refine Set.disjoint_left.mpr ?_
    rintro a ⟨_, _, hdata⟩ hfootprint
    simp only [hq, Contents.mem_span, UInt64.reduceToNat, UInt16.reduceToNat] at hdata
    rcases hfootprint with hrecord | ⟨_, hdata'⟩
    · simp only [p, Contents.mem_span, UInt64.reduceToNat, Request.recordLength] at hrecord
      omega
    · simp only [hp, Contents.mem_span, UInt64.reduceToNat, UInt16.reduceToNat] at hdata'
      omega
  exact ⟨houtcome, transfers_commute p q window hpq hqp⟩

end SensorLink

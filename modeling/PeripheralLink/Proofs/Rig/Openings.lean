import PeripheralLink.Bridge
import PeripheralLink.Proofs.Rig.Course
/-!
Opening a bridge and shutting it down.  What a link does it does alone (`Confined`), so that either comes
down to two things: the link that goes or comes, and the sink, which the bridge was given or has made for
itself (`Bridge.Furnished`).
-/

namespace PeripheralLink

/-- The sink of a bridge and whose it is: one that was given is kept, and one that the bridge has made is
there exactly while it has a link. -/
structure Bridge.Furnished (given : Option Sink) (b : Bridge) : Prop where
  kept : ∀ sink, given = some sink → b.sink = some sink ∧ b.ownsSink = false
  own : given = none → b.sink.isSome = b.station.isSome ∧ b.ownsSink = b.station.isSome

theorem Bridge.Furnished.eq_of_closed {given : Option Sink} {b : Bridge} (h : b.Furnished given)
    (hclosed : b.station = none) : b = { sink := given } := by
  obtain ⟨sink, ownsSink, station⟩ := b
  obtain rfl : station = none := hclosed
  cases given with
  | some sink' =>
      obtain ⟨rfl, rfl⟩ := h.kept sink' rfl
      rfl
  | none =>
      obtain ⟨hsink, howns⟩ := h.own rfl
      obtain rfl : sink = none := by simpa using hsink
      obtain rfl : ownsSink = false := by simpa using howns
      rfl

theorem Bridge.Furnished.opened (given : Option Sink) (fresh : Sink) (k : Nat) :
    Bridge.Furnished given
      { sink := some (given.getD fresh), ownsSink := given.isNone, station := some k } where
  kept sink hgiven := by
    rw [hgiven]
    exact ⟨rfl, rfl⟩
  own hgiven := by
    rw [hgiven]
    exact ⟨rfl, rfl⟩

namespace Rig

/-- Link `k` alone has been at work: the other links, the clients and the bridge are as they were. -/
structure Confined {σ τ : Type} (k : Nat) (r r' : Rig σ τ) : Prop where
  others : ∀ j, j ≠ k → r'.link? j = r.link? j
  clients : r'.clients = r.clients
  bridge : r'.bridge = r.bridge

namespace Confined

variable {σ τ : Type} {k : Nat} {r r' r'' : Rig σ τ}

theorem refl (k : Nat) (r : Rig σ τ) : Confined k r r := ⟨fun _ _ => rfl, rfl, rfl⟩

theorem trans (h : Confined k r r') (h' : Confined k r' r'') : Confined k r r'' where
  others j hj := (h'.others j hj).trans (h.others j hj)
  clients := h'.clients.trans h.clients
  bridge := h'.bridge.trans h.bridge

theorem setLink (k : Nat) (r : Rig σ τ) (l : Link τ) : Confined k r (r.setLink k l) where
  others j hj := by
    rw [link?, link?, Rig.setLink, Array.getElem?_modify, if_neg hj.symm]
  clients := rfl
  bridge := rfl

theorem record (k : Nat) (r : Rig σ τ) (e : Entry τ) : Confined k r (r.record e) :=
  ⟨fun _ _ => rfl, rfl, rfl⟩

theorem tell (k : Nat) (r : Rig σ τ) (sink : Sink) (e : Edge) : Confined k r (r.tell sink e id) := by
  apply tell_keeps (P := Confined k r) _ _ sink e (refl k r)
  · intro r' e h
    exact h.trans (record k r' e)
  · exact fun _ h => h

theorem told (k : Nat) (r : Rig σ τ) (sink : Sink) (outcome : Except Fault (Option Edge)) :
    Confined k r (r.told sink outcome).2 := by
  rcases outcome with fault | _ | e
  · exact refl k r
  · exact refl k r
  · exact tell k r sink e

variable [Carrier σ τ]

theorem via {α : Type} (k : Nat) (r : Rig σ τ) (call : σ → α × σ) : Confined k r (r.via call).2 :=
  ⟨fun _ _ => rfl, rfl, rfl⟩

theorem of_silently {moves : List Phase} (h : Silently k r moves r') : Confined k r r' := by
  induction h with
  | none => exact refl k r
  | via _ call ih => exact ih.trans (via k _ call)
  | report _ n ih => exact ih.trans (record k _ _)
  | change _ _ l' ih => exact ih.trans (setLink k _ l')

theorem change (k : Nat) (r : Rig σ τ) (operation : Link τ → Link τ × List (LinkAction τ)) :
    Confined k r (r.change k operation) := by
  rw [Rig.change]
  cases hl : r.link? k with
  | none => exact refl k r
  | some l => exact of_silently ((Silently.none.change hl (operation l).1).perform (operation l).2)

/-- Sending, receiving and requests work on their link alone. -/
theorem messaging (k : Nat) (start : Rig σ τ) : Messaging k (Confined k start) where
  report n h := h.trans (record k _ _)
  sending _ _ h := h.trans (via k _ _)
  receiving _ h := h.trans (via k _ _)
  exchanging _ _ h := h.trans (via k _ _)
  sent m delivered h := h.trans (change k _ _)
  countSent h := h.trans (change k _ _)
  countFailed h := h.trans (change k _ _)
  accept line h := by
    rw [accept_eq_change]
    exact h.trans (change k _ _)

end Confined

variable {σ τ : Type}

theorem closeSink_frame (r : Rig σ τ) (sink : Sink) :
    (r.closeSink sink).stations = r.stations ∧ (r.closeSink sink).outside = r.outside := by
  cases sink with
  | backend url client =>
      simp only [closeSink]
      split <;> exact ⟨rfl, rfl⟩
  | _ => exact ⟨rfl, rfl⟩

/-- What the client of a backend does is no matter of the links. -/
theorem connectSink_frame (r : Rig σ τ) (sink : Sink) :
    (r.connectSink sink).2.stations = r.stations ∧ (r.connectSink sink).2.outside = r.outside ∧
      (r.connectSink sink).2.bridge = r.bridge := by
  cases sink with
  | backend url client =>
      simp only [connectSink]
      split <;> exact ⟨rfl, rfl, rfl⟩
  | _ => exact ⟨rfl, rfl, rfl⟩

/-- The sink that the bridge makes for itself: the log, or a backend with a new client. -/
def freshSink (r : Rig σ τ) (options : BridgeOptions τ) : Sink :=
  match options.notifyUrl with
  | none => .log
  | some url => .backend url r.clients.size

/-- The bridge uses the sink that was given or makes one of its own, if that does not break down; links and
transports are left alone. -/
theorem bridgeSink_spec {given : Option Sink} {r r' : Rig σ τ} {options : BridgeOptions τ}
    {result : Except Fault Sink} (hbridge : r.bridge = { sink := given })
    (h : r.bridgeSink options = (result, r')) :
    r'.stations = r.stations ∧ r'.outside = r.outside ∧
      ((∃ fault, result = .error fault) ∧ given = none ∧ r'.bridge = { sink := given } ∨
        result = .ok (given.getD (r.freshSink options)) ∧
          r'.bridge = { sink := some (given.getD (r.freshSink options)), ownsSink := given.isNone }) := by
  cases given with
  | some sink =>
      simp only [bridgeSink, hbridge] at h
      obtain ⟨rfl, rfl⟩ := Prod.mk.inj h
      exact ⟨rfl, rfl, .inr ⟨rfl, hbridge⟩⟩
  | none =>
      cases hurl : options.notifyUrl with
      | none =>
          simp only [bridgeSink, hbridge, hurl] at h
          obtain ⟨rfl, rfl⟩ := Prod.mk.inj h
          refine ⟨rfl, rfl, .inr ⟨?_, ?_⟩⟩ <;> simp [freshSink, hurl]
      | some url =>
          simp only [bridgeSink, hbridge, hurl] at h
          have hfresh : r.freshSink options = (r.openBackend url false).1 := by rw [freshSink, hurl]; rfl
          obtain ⟨hstations, houtside, hconnected⟩ := connectSink_frame (r.openBackend url false).2
            (r.openBackend url false).1
          rcases hconnect : (r.openBackend url false).2.connectSink (r.openBackend url false).1 with
            ⟨fault | up, r₁⟩
          · rw [hconnect] at h hstations houtside hconnected
            obtain ⟨rfl, rfl⟩ := Prod.mk.inj h
            exact ⟨hstations, houtside, .inl ⟨⟨fault, rfl⟩, rfl, hconnected.trans hbridge⟩⟩
          · rw [hconnect] at h hstations houtside hconnected
            obtain ⟨rfl, rfl⟩ := Prod.mk.inj h
            refine ⟨hstations, houtside, .inr ⟨by rw [hfresh]; rfl, ?_⟩⟩
            have hkept : r₁.bridge = { sink := none } := hconnected.trans hbridge
            simp [hkept, hfresh]

variable [Carrier σ τ]

/-- The rig with the bridge's link turned off, if there is one. -/
def linkOff (r : Rig σ τ) : Rig σ τ :=
  match r.bridge.station with
  | some k => r.shutDownLink k
  | none => r

/-- The rig as it is once the bridge has no link. -/
def unlinked (r : Rig σ τ) : Rig σ τ := if r.bridge.station.isSome then r.shutDownBridge else r

/-- The rig with a new link for the bridge. -/
def linked [Zero τ] (r : Rig σ τ) (options : LinkOptions τ) (target : Target) (sink : Sink) : Rig σ τ :=
  Rig.report { (r.addLink options target sink).2 with
    bridge := { r.bridge with station := some r.stations.size } } (.bridge (.initialized target))

/-- Opening the bridge: a link that it has goes, a sink is found, and a new link comes, which may be turned
on at once. -/
theorem openBridge_eq [Zero τ] (r : Rig σ τ) (options : BridgeOptions τ) (host port : Option Value) :
    r.openBridge options host port =
      match r.unlinked.bridgeSink options with
      | (.error fault, r) => (.error fault, r)
      | (.ok sink, r) =>
        let target : Target := ⟨host.getD options.target.host, port.getD options.target.port⟩
        (.ok (), if options.enabled then (r.linked options.link target sink).setEnabled r.stations.size true
          else r.linked options.link target sink) := rfl

/-- Shutting the bridge down turns its link off; the rest of it is about the sink. -/
theorem shutDownBridge_frame (r : Rig σ τ) :
    r.shutDownBridge.stations = r.linkOff.stations ∧ r.shutDownBridge.outside = r.linkOff.outside := by
  unfold shutDownBridge linkOff
  cases r.bridge.station with
  | none =>
      dsimp only
      split
      · exact closeSink_frame r _
      · exact ⟨rfl, rfl⟩
  | some k =>
      dsimp only
      split
      · exact closeSink_frame _ _
      · exact ⟨rfl, rfl⟩

theorem bridge_shutDownBridge {given : Option Sink} {r : Rig σ τ} (h : r.bridge.Furnished given) :
    r.shutDownBridge.bridge = { sink := given } := by
  rcases hbridge : r.bridge with ⟨sink, ownsSink, station⟩
  rw [hbridge] at h
  cases given with
  | some sink' =>
      obtain ⟨rfl, rfl⟩ := h.kept sink' rfl
      cases station <;> simp [shutDownBridge, hbridge, Rig.report, Rig.record]
  | none =>
      obtain ⟨hsink, howns⟩ := h.own rfl
      cases station with
      | none =>
          obtain rfl : sink = none := by simpa using hsink
          obtain rfl : ownsSink = false := by simpa using howns
          simp [shutDownBridge, hbridge, Rig.report, Rig.record]
      | some k =>
          obtain ⟨sink', rfl⟩ := Option.isSome_iff_exists.mp hsink
          obtain rfl : ownsSink = true := by simpa using howns
          simp [shutDownBridge, hbridge, Rig.report, Rig.record]

/-- The sink is closed on the way to `r'`: its client, if it has one, is disconnected. -/
def Closes (r r' : Rig σ τ) : Sink → Prop
  | .backend _ client =>
    (r'.clients[client]?.getD {}).connected = false ∧
      ((r.clients[client]?.getD {}).connected = true →
        ∃ before, r'.journal.toList = before ++ [.client .disconnect, .report (.bridge .shutDown)])
  | _ => True

theorem clients_linkOff (r : Rig σ τ) : r.linkOff.clients = r.clients := by
  rw [linkOff]
  cases r.bridge.station with
  | none => rfl
  | some k => exact (Confined.change k r _).clients

/-- A sink that the bridge does not own is let alone when it is shut down. -/
theorem clients_shutDownBridge {r : Rig σ τ} (h : r.bridge.ownsSink = false) :
    r.shutDownBridge.clients = r.clients := by
  rw [← clients_linkOff r, linkOff, shutDownBridge]
  cases r.bridge.station <;> simp [h, Rig.report, Rig.record]

theorem closeSink_backend {σ τ : Type} (r : Rig σ τ) (url : String) (client : Nat) :
    ((r.closeSink (.backend url client)).clients[client]?.getD {}).connected = false ∧
      ((r.clients[client]?.getD {}).connected = true →
        (r.closeSink (.backend url client)).journal = r.journal.push (.client .disconnect)) := by
  simp only [closeSink]
  split
  · refine ⟨?_, fun _ => rfl⟩
    simp only [setClient, record, Array.getElem?_modify, ↓reduceIte]
    cases r.clients[client]? <;> rfl
  · rename_i hidle
    exact ⟨by simpa using hidle, fun hconnected => absurd hconnected hidle⟩

theorem size_closeSink {σ τ : Type} (r : Rig σ τ) (sink : Sink) :
    (r.closeSink sink).clients.size = r.clients.size := by
  cases sink with
  | backend url client =>
      simp only [closeSink]
      split
      · exact Array.size_modify
      · rfl
  | _ => rfl

section Owned

variable {r : Rig σ τ} {sink : Sink} (howns : r.bridge.ownsSink = true)
  (hsink : r.bridge.sink = some sink)
include howns hsink

/-- The last thing that shutting a bridge down does is to close the sink that the bridge owns. -/
theorem shutDownBridge_owned :
    ∃ r₁ : Rig σ τ, r₁.clients = r.clients ∧ r₁.journal = r.linkOff.journal ∧
      r.shutDownBridge.clients = (r₁.closeSink sink).clients ∧
      r.shutDownBridge.journal = (r₁.closeSink sink).journal.push (.report (.bridge .shutDown)) := by
  cases hk : r.bridge.station with
  | none => refine ⟨r, rfl, ?_, ?_, ?_⟩ <;> simp [linkOff, shutDownBridge, hk, howns, hsink, Rig.report, Rig.record]
  | some k =>
      refine ⟨{ r.shutDownLink k with bridge := { r.bridge with station := none } },
        (Confined.change k r _).clients, ?_, ?_, ?_⟩ <;>
        simp [linkOff, shutDownBridge, hk, howns, hsink, Rig.report, Rig.record]

theorem closes_shutDownBridge : Closes r r.shutDownBridge sink := by
  obtain ⟨r₁, hclients, -, hclosed, hjournal⟩ := shutDownBridge_owned howns hsink
  cases sink with
  | backend url client =>
      obtain ⟨hdisconnected, hentered⟩ := closeSink_backend r₁ url client
      rw [Closes, hclosed, hjournal, ← hclients]
      refine ⟨hdisconnected, fun hconnected => ⟨r₁.journal.toList, ?_⟩⟩
      rw [hentered hconnected, Array.toList_push, Array.toList_push, List.append_assoc]
      rfl
  | _ => trivial

theorem freshSink_shutDownBridge (options : BridgeOptions τ) :
    r.shutDownBridge.freshSink options = r.freshSink options := by
  obtain ⟨r₁, hclients, -, hclosed, -⟩ := shutDownBridge_owned howns hsink
  rw [freshSink, freshSink, hclosed, size_closeSink, hclients]

end Owned

end Rig

end PeripheralLink

import Mathlib.Algebra.Ring.Int.Defs
import PeripheralLink.Proofs.Link.Sound
import PeripheralLink.Proofs.Rig.Stations
import PeripheralLink.Scenario.Outside
/-!
The moments at which the lock of a link is free.  A moment comes with the attempts that are in flight:
claimed by an update and neither applied nor given up.  Whatever holds the lock once is a step from one
moment to another, in any order, so that calls from other threads, calls while a connection is being
made and calls out of a notification are all covered; `Moment.update` ties a whole update, with calls
inside it, to these steps.

The main statement is `Moment.disabled_connected_attempting_iff`: phase, transport and attempt agree at every moment.
-/

namespace PeripheralLink

namespace Rig

variable {σ τ : Type} [Carrier σ τ] [Zero τ] [Sub τ] [Mul τ] [LE τ] [DecidableLE τ] [LT τ]
  [DecidableLT τ]

/-- Every part of an update of link `k` keeps a property, with the attempts in flight. -/
structure Updating (k : Nat) (P : List Attempt → Rig σ τ → Prop) : Prop where
  build {inFlight : List Attempt} {r : Rig σ τ} (limits : TransportLimits τ) (target : Target)
    (h : P inFlight r) : P inFlight (r.via fun o => Carrier.build o limits target).2
  approach {inFlight : List Attempt} {r : Rig σ τ} (id : Nat) (h : P inFlight r) :
    P inFlight (r.via fun o => ((), Carrier.approach o id)).2
  connect {inFlight : List Attempt} {r : Rig σ τ} (id : Nat) (h : P inFlight r) :
    P inFlight (r.via fun o => Carrier.connect o id).2
  look {inFlight : List Attempt} {r : Rig σ τ} (h : P inFlight r) :
    P ((r.look k).1.claimed ++ inFlight) (r.look k).2
  conclude {inFlight : List Attempt} {r : Rig σ τ} {a : Attempt} (id : Nat) (up : Bool)
    (h : P (a :: inFlight) r) : P inFlight (r.conclude k a id up).2
  abort {inFlight : List Attempt} {r : Rig σ τ} {a : Attempt} (h : P (a :: inFlight) r) :
    P inFlight (r.abort k)
  record {inFlight : List Attempt} {r : Rig σ τ} (e : Entry τ) (h : P inFlight r) : P inFlight (r.record e)

namespace Updating

variable {k : Nat} {P : List Attempt → Rig σ τ → Prop} {r : Rig σ τ} {inFlight : List Attempt}
  {window reaction : Rig σ τ → Rig σ τ}

/-- The edge that an update has found is told with whatever the callback does. -/
theorem tell (hparts : Updating k P) (h : P inFlight r)
    (hreaction : ∀ r, P inFlight r → P inFlight (reaction r)) (sink : Sink) (e : Edge) :
    P inFlight (r.tell sink e reaction) :=
  tell_keeps (P := P inFlight) (fun _ => hparts.record) hreaction sink e h

/-- An attempt from its claim on, with whatever comes in while it connects and while its edge is told. -/
theorem attempt (hparts : Updating k P) {a : Attempt} (h : P (a :: inFlight) r)
    (limits : TransportLimits τ) (sink : Sink)
    (hwindow : ∀ r, P (a :: inFlight) r → P (a :: inFlight) (window r))
    (hreaction : ∀ r, P inFlight r → P inFlight (reaction r)) :
    P inFlight (r.attempt k limits sink a window reaction).2 := by
  have hbuilt := hparts.build limits a.target h
  unfold Rig.attempt
  split
  · rename_i heq
    rw [heq] at hbuilt
    exact hparts.abort hbuilt
  · rename_i id _ heq
    rw [heq] at hbuilt
    have hopened := hparts.connect id (hwindow _ (hparts.approach id hbuilt))
    dsimp only
    split
    · rename_i heq
      rw [heq] at hopened
      exact hparts.abort hopened
    · rename_i up _ heq
      rw [heq] at hopened
      have hconcluded := hparts.conclude id up hopened
      split
      · rename_i heq
        rw [heq] at hconcluded
        exact hparts.tell hconcluded hreaction sink _
      · rename_i heq
        rw [heq] at hconcluded
        exact hconcluded

/-- A whole update keeps the property, as long as the calls inside it do. -/
theorem update (hparts : Updating k P) (h : P inFlight r)
    (hwindow : ∀ r a, P (a :: inFlight) r → P (a :: inFlight) (window r))
    (hreaction : ∀ r, P inFlight r → P inFlight (reaction r)) :
    P inFlight (r.update k window reaction).2 := by
  have hlooked := hparts.look h
  unfold Rig.update
  split
  · exact h
  · rename_i s _
    split
    · rename_i heq
      rw [heq] at hlooked
      exact hlooked
    · rename_i e _ heq
      rw [heq] at hlooked
      exact hparts.tell hlooked hreaction s.sink e
    · rename_i a _ heq
      rw [heq] at hlooked
      exact hparts.attempt hlooked s.limits s.sink (hwindow · a) hreaction

end Updating

/-- A moment at which the lock of link `k` is free, with the attempts in flight. -/
inductive Moment (k : Nat) : Rig σ τ → List Attempt → Prop
  | made (r : Rig σ τ) (options : LinkOptions τ) (host : String) (port : Int) (sink : Sink)
      (hk : r.stations.size = k) : Moment k (r.addLink options (.of host port) sink).2 []
  /-- Something happens that is not up to this link: time passes, a transport is built, connects, is
  used or breaks, a notification is handed over, another link is called. -/
  | elsewhere {r r' : Rig σ τ} {inFlight : List Attempt} (h : Moment k r inFlight)
      (hlink : r'.link? k = r.link? k) : Moment k r' inFlight
  | setEnabled {r : Rig σ τ} {inFlight : List Attempt} (h : Moment k r inFlight) (on : Bool) :
      Moment k (r.setEnabled k on) inFlight
  | configure {r : Rig σ τ} {inFlight : List Attempt} (h : Moment k r inFlight) (host : String)
      (port : Int) : Moment k (r.configure k (.of host port)) inFlight
  | shutDown {r : Rig σ τ} {inFlight : List Attempt} (h : Moment k r inFlight) :
      Moment k (r.shutDownLink k) inFlight
  | look {r : Rig σ τ} {inFlight : List Attempt} (h : Moment k r inFlight) :
      Moment k (r.look k).2 ((r.look k).1.claimed ++ inFlight)
  | conclude {r : Rig σ τ} {before after : List Attempt} {a : Attempt}
      (h : Moment k r (before ++ a :: after)) (id : Nat) (up : Bool) :
      Moment k (r.conclude k a id up).2 (before ++ after)
  | abort {r : Rig σ τ} {before after : List Attempt} {a : Attempt}
      (h : Moment k r (before ++ a :: after)) : Moment k (r.abort k) (before ++ after)
  | sent {r : Rig σ τ} {inFlight : List Attempt} (h : Moment k r inFlight) (m : Message)
      (delivered : Bool) : Moment k (r.change k (·.sent m delivered)) inFlight
  | countSent {r : Rig σ τ} {inFlight : List Attempt} (h : Moment k r inFlight) :
      Moment k (r.change k fun l => (l.countSent, [])) inFlight
  | countFailed {r : Rig σ τ} {inFlight : List Attempt} (h : Moment k r inFlight) :
      Moment k (r.change k fun l => (l.countFailed, [])) inFlight
  | accept {r : Rig σ τ} {inFlight : List Attempt} (h : Moment k r inFlight)
      (line : Option (List UInt8)) : Moment k (r.accept k line).2 inFlight

namespace Moment

variable {k : Nat} {r r' : Rig σ τ} {inFlight : List Attempt}

/-- The link keeps its invariant at every moment. -/
theorem sound (h : Moment k r inFlight) : ∃ l, r.link? k = some l ∧ l.Sound inFlight := by
  induction h with
  | made r options host port sink hk =>
      subst hk
      exact ⟨_, link?_addLink r options _ sink, .start rfl rfl rfl rfl rfl⟩
  | elsewhere _ hlink ih =>
      obtain ⟨l, hl, hsound⟩ := ih
      exact ⟨l, hlink.trans hl, hsound⟩
  | setEnabled _ on ih =>
      obtain ⟨l, hl, hsound⟩ := ih
      exact ⟨_, link?_change hl _, hsound.setEnabled _ on⟩
  | configure _ host port ih =>
      obtain ⟨l, hl, hsound⟩ := ih
      exact ⟨_, link?_change hl _, hsound.configure _ host port⟩
  | shutDown _ ih =>
      obtain ⟨l, hl, hsound⟩ := ih
      exact ⟨_, link?_change hl _, hsound.shutDown _⟩
  | look _ ih =>
      obtain ⟨l, hl, hsound⟩ := ih
      obtain ⟨alive, hpolled, hlink⟩ := link?_look hl
      rw [hpolled]
      exact ⟨_, hlink, hsound.poll _ alive⟩
  | conclude _ id up ih =>
      obtain ⟨l, hl, hsound⟩ := ih
      exact ⟨_, link?_conclude hl _ id up, hsound.settle _ id up⟩
  | abort _ ih =>
      obtain ⟨l, hl, hsound⟩ := ih
      exact ⟨_, link?_change hl _, hsound.abort⟩
  | sent _ m delivered ih =>
      obtain ⟨l, hl, hsound⟩ := ih
      exact ⟨_, link?_change hl _, hsound.sent m delivered⟩
  | countSent _ ih =>
      obtain ⟨l, hl, hsound⟩ := ih
      exact ⟨_, link?_change hl _, hsound.congr rfl rfl rfl rfl rfl rfl⟩
  | countFailed _ ih =>
      obtain ⟨l, hl, hsound⟩ := ih
      exact ⟨_, link?_change hl _, hsound.congr rfl rfl rfl rfl rfl rfl⟩
  | accept _ line ih =>
      obtain ⟨l, hl, hsound⟩ := ih
      exact ⟨_, link?_accept hl line, hsound.accept line⟩

theorem sound_of_link (h : Moment k r inFlight) {l : Link τ} (hl : r.link? k = some l) :
    l.Sound inFlight := by
  obtain ⟨l', hl', hsound⟩ := h.sound
  rwa [Option.some.inj (hl.symm.trans hl')]

/-- What leaves the stations alone leads from moment to moment. -/
theorem of_stations (h : Moment k r inFlight) (hstations : r'.stations = r.stations) :
    Moment k r' inFlight :=
  h.elsewhere (link?_of_stations hstations k)

theorem report (h : Moment k r inFlight) (n : Report τ) : Moment k (r.report n) inFlight :=
  h.of_stations rfl

theorem via {α : Type} (h : Moment k r inFlight) (call : σ → α × σ) :
    Moment k (r.via call).2 inFlight :=
  h.of_stations rfl

/-- Sending, receiving and requests lead from moment to moment. -/
theorem messaging : Messaging k fun r : Rig σ τ => Moment k r inFlight where
  report n h := h.report (.link n)
  sending _ _ h := h.via _
  receiving _ h := h.via _
  exchanging _ _ h := h.via _
  sent m delivered h := h.sent m delivered
  countSent h := h.countSent
  countFailed h := h.countFailed
  accept line h := h.accept line

/-- The parts of an update lead from moment to moment: every lock it takes is a step. -/
theorem updating : Updating k fun inFlight (r : Rig σ τ) => Moment k r inFlight where
  build _ _ h := h.via _
  approach _ h := h.via _
  connect _ h := h.via _
  look h := h.look
  conclude {inFlight r a} id up h := by
    have hsplit : Moment k r ([] ++ a :: inFlight) := h
    exact hsplit.conclude id up
  abort {inFlight r a} h := by
    have hsplit : Moment k r ([] ++ a :: inFlight) := h
    exact hsplit.abort
  record _ h := h.of_stations rfl

/-- A whole update leads from moment to moment, as long as the calls inside it do. -/
theorem update {window reaction : Rig σ τ → Rig σ τ} (h : Moment k r inFlight)
    (hwindow : ∀ r a, Moment k r (a :: inFlight) → Moment k (window r) (a :: inFlight))
    (hreaction : ∀ r, Moment k r inFlight → Moment k (reaction r) inFlight) :
    Moment k (r.update k window reaction).2 inFlight :=
  updating.update h hwindow hreaction

/-- At every moment the link is disabled exactly when it is not wanted or has no valid target, owns a
transport exactly while it is connected, and is attempting exactly while its one attempt is in
flight.  So the two ways in which a poll could still correct the phase never change anything. -/
theorem disabled_connected_attempting_iff (h : Moment k r inFlight) :
    ∃ l, r.link? k = some l ∧
      (l.phase = .disabled ↔ ¬ (l.enabled = true ∧ l.target.isValid = true)) ∧
      (l.transport.isSome = true ↔ l.phase = .connected) ∧
      (l.attempting = true ↔ ∃ a, inFlight = [a]) ∧ inFlight.length ≤ 1 ∧
      ∀ now alive, l.phase = .disabled ∨ l.enabled = false →
        l.advance now alive = (l, [], .quiet) := by
  obtain ⟨l, hl, hsound⟩ := h.sound
  have hlength := hsound.length_inFlight
  refine ⟨l, hl, hsound.disabled_iff, hsound.owns_iff, ?_, ?_, ?_⟩
  · rw [← List.length_eq_one_iff, hlength]
    cases l.attempting <;> simp
  · rw [hlength]
    split <;> omega
  · intro now alive hoff
    have hphase : l.phase = .disabled := by
      rcases hoff with hphase | henabled
      · exact hphase
      · exact hsound.disabled_iff.mpr (by simp [henabled])
    rcases hsound.advance_cases now alive with
      ⟨heq, _⟩ | ⟨hother, _⟩ | ⟨hother, _⟩ | ⟨hother, _⟩ | ⟨hother, _⟩
    · exact heq
    all_goals simp [hphase] at hother

end Moment

/-- A link turned off and on again while its first attempt is in flight. -/
theorem disabled_connected_attempting_iff_toggled :
    ∃ (r : Rig (Scripted Int) Int) (a : Attempt) (l : Link Int), Moment 0 r [a] ∧
      r.link? 0 = some l ∧ l.attempting = true ∧ l.phase = .disconnected ∧ l.generation = 1 := by
  have hmade := Moment.made ({ outside := { clock := 0 } } : Rig (Scripted Int) Int)
    ⟨⟨3, 1, defaultLineLimit⟩, {}, 5, 0, .start 1 2 30⟩ "10.0.0.2" 7000 .log rfl
  have hclaimed := (hmade.setEnabled true).look.look
  have htoggled := (hclaimed.setEnabled false).setEnabled true
  obtain ⟨l, hl, _, _, hattempting, _⟩ := htoggled.disabled_connected_attempting_iff
  refine ⟨_, _, l, htoggled, hl, hattempting.mpr ⟨_, rfl⟩, ?_⟩
  cases hl
  exact ⟨rfl, rfl⟩

end Rig

end PeripheralLink

import Mathlib.Tactic.Common
import PeripheralLink.Rig
/-!
What the operations of a rig leave of its stations: calls on the outside and reports leave them as
they are, and an operation on one link replaces that link by what `Link` makes of it.
-/

namespace PeripheralLink

namespace Rig

variable {σ τ : Type} {r r' : Rig σ τ} {k : Nat} {l : Link τ}

theorem link?_setLink (h : r.link? k = some l) (l' : Link τ) : (r.setLink k l').link? k = some l' := by
  simp only [link?, Option.map_eq_some_iff] at h ⊢
  obtain ⟨s, hs, rfl⟩ := h
  exact ⟨{ s with link := l' }, by simp [setLink, Array.getElem?_modify, hs], rfl⟩

/-- Replacing a link by itself changes nothing. -/
theorem setLink_self (h : r.link? k = some l) : r.setLink k l = r := by
  simp only [link?, Option.map_eq_some_iff] at h
  obtain ⟨s, hs, rfl⟩ := h
  have hstations : r.stations.modify k (fun s' => { s' with link := s.link }) = r.stations := by
    apply Array.ext_getElem?
    intro i
    rw [Array.getElem?_modify]
    split
    · rename_i hi
      subst hi
      simp [hs]
    · rfl
  rw [setLink, hstations]

theorem channel?_eq_none (h : r.link? k = some l) (hphase : l.phase ≠ .connected) :
    (r.link? k).bind Link.channel? = none := by
  simp [h, Link.channel?, hphase]

@[simp] theorem stations_record (r : Rig σ τ) (e : Entry τ) : (r.record e).stations = r.stations :=
  rfl

@[simp] theorem stations_report (r : Rig σ τ) (n : Report τ) : (r.report n).stations = r.stations :=
  rfl

theorem link?_of_stations (h : r'.stations = r.stations) (k : Nat) : r'.link? k = r.link? k := by
  rw [link?, link?, h]

/-- Telling a sink keeps whatever survives entries into the journal and the reaction. -/
theorem tell_keeps {P : Rig σ τ → Prop} {reaction : Rig σ τ → Rig σ τ}
    (hrecord : ∀ r e, P r → P (r.record e)) (hreaction : ∀ r, P r → P (reaction r)) (sink : Sink) (e : Edge)
    (h : P r) : P (r.tell sink e reaction) := by
  have hdeliver : P (r.deliver sink e.notification reaction).2 := by
    cases sink with
    | log => exact hrecord r _ h
    | callback => exact hreaction _ (hrecord r _ h)
    | bare => exact h
    | backend url client =>
        have hemitted := hrecord r (.client (.emit notificationEvent e.notification)) h
        simp only [deliver]
        split
        · split
          · exact hemitted
          · exact hrecord _ _ hemitted
          · exact hrecord _ _ hemitted
          · exact hemitted
        · exact hrecord r _ h
  unfold tell
  split
  · rename_i heq
    rw [heq] at hdeliver
    exact hdeliver
  · rename_i heq
    rw [heq] at hdeliver
    exact hrecord _ _ hdeliver

variable [Carrier σ τ]

@[simp] theorem stations_via {α : Type} (r : Rig σ τ) (call : σ → α × σ) :
    (r.via call).2.stations = r.stations := rfl

@[simp] theorem stations_perform (r : Rig σ τ) (actions : List (LinkAction τ)) :
    (r.perform actions).stations = r.stations := by
  induction actions generalizing r with
  | nil => rfl
  | cons action rest ih =>
      have hfirst : (r.perform (action :: rest)).stations = (r.perform [action]).stations := ih _
      rw [hfirst]
      cases action <;> rfl

@[simp] theorem perform_nil (r : Rig σ τ) : r.perform [] = r := rfl

theorem link?_perform (r : Rig σ τ) (actions : List (LinkAction τ)) (k : Nat) :
    (r.perform actions).link? k = r.link? k :=
  link?_of_stations (stations_perform r actions) k

theorem change_eq (h : r.link? k = some l) (operation : Link τ → Link τ × List (LinkAction τ)) :
    r.change k operation = (r.setLink k (operation l).1).perform (operation l).2 := by
  rw [change, h]

theorem link?_change (h : r.link? k = some l)
    (operation : Link τ → Link τ × List (LinkAction τ)) :
    (r.change k operation).link? k = some (operation l).1 := by
  rw [change_eq h, link?_perform, link?_setLink h]

theorem link?_accept (h : r.link? k = some l) (line : Option (List UInt8)) :
    (r.accept k line).2.link? k = some (l.accept line).2.1 := by
  rw [accept, h]
  exact (link?_perform _ _ _).trans (link?_setLink h _)

/-- Every part of sending and receiving on link `k` keeps a property. -/
structure Messaging (k : Nat) (P : Rig σ τ → Prop) : Prop where
  report {r : Rig σ τ} (n : LinkNotice τ) (h : P r) : P (r.report (.link n))
  sending {r : Rig σ τ} (id : Nat) (bytes : List UInt8) (h : P r) :
    P (r.via fun o => Carrier.send o id bytes).2
  receiving {r : Rig σ τ} (id : Nat) (h : P r) : P (r.via fun o => Carrier.receive o id).2
  exchanging {r : Rig σ τ} (id : Nat) (bytes : List UInt8) (h : P r) :
    P (r.via fun o => Carrier.exchange o id bytes).2
  sent {r : Rig σ τ} (m : Message) (delivered : Bool) (h : P r) :
    P (r.change k (·.sent m delivered))
  countSent {r : Rig σ τ} (h : P r) : P (r.change k fun l => (l.countSent, []))
  countFailed {r : Rig σ τ} (h : P r) : P (r.change k fun l => (l.countFailed, []))
  accept {r : Rig σ τ} (line : Option (List UInt8)) (h : P r) : P (r.accept k line).2

namespace Messaging

variable {P : Rig σ τ → Prop}

theorem send (hparts : Messaging k P) (h : P r) (m : Message) : P (r.send k m).2 := by
  unfold Rig.send
  split
  · exact h
  · rename_i id _
    split
    · rename_i e _
      split
      · exact hparts.countFailed (hparts.report _ h)
      · exact h
    · exact hparts.sent m _ (hparts.sending id _ h)

theorem receive (hparts : Messaging k P) (h : P r) : P (r.receive k).2 := by
  unfold Rig.receive
  split
  · exact h
  · rename_i id _
    exact hparts.accept _ (hparts.receiving id h)

theorem request (hparts : Messaging k P) (h : P r) (m : Message) : P (r.request k m).2 := by
  unfold Rig.request
  split
  · exact h
  · rename_i id _
    split
    · rename_i e _
      split
      · exact hparts.countFailed (hparts.report _ h)
      · exact h
    · rename_i bytes _
      have hexchanged := hparts.exchanging id bytes h
      split
      · rename_i heq
        rw [heq] at hexchanged
        exact hexchanged
      · rename_i heq
        rw [heq] at hexchanged
        split
        · exact hparts.accept _ (hparts.countSent hexchanged)
        · exact hparts.accept _ hexchanged

end Messaging

section
variable (h : r.link? k = some l) (hphase : l.phase ≠ .connected)
include h hphase

theorem send_of_ne_connected (m : Message) : r.send k m = (.ok false, r) := by
  simp only [send, channel?_eq_none h hphase]

theorem receive_of_ne_connected : r.receive k = (.ok none, r) := by
  simp only [receive, channel?_eq_none h hphase]

theorem request_of_ne_connected (m : Message) : r.request k m = (.ok none, r) := by
  simp only [request, channel?_eq_none h hphase]

end

theorem link?_addLink [Zero τ] (r : Rig σ τ) (options : LinkOptions τ) (target : Target)
    (sink : Sink) :
    (r.addLink options target sink).2.link? r.stations.size =
      some {
        target
        codec := options.codec
        enteredAt := r.now
        backoff := options.backoff
        health := ⟨options.healthInterval, 0⟩
        status := ⟨options.statusInterval, r.now⟩ } := by
  simp [addLink, link?]

section
variable [Zero τ] [Sub τ] [LE τ] [DecidableLE τ] [LT τ] [DecidableLT τ]

/-- The first part of an update polls the link once, with the outcome of a probe. -/
theorem look_eq (h : r.link? k = some l) :
    ∃ (alive : Bool) (r' : Rig σ τ), r'.stations = r.stations ∧
      r.look k = ((l.poll r.now alive).2.2,
        (r'.setLink k (l.poll r.now alive).1).perform (l.poll r.now alive).2.1) := by
  simp only [look, h]
  cases l.probe? r.now with
  | none => exact ⟨true, r, rfl, rfl⟩
  | some id => exact ⟨_, _, stations_via r _, rfl⟩

theorem link?_look (h : r.link? k = some l) :
    ∃ alive, (r.look k).1 = (l.poll r.now alive).2.2 ∧
      (r.look k).2.link? k = some (l.poll r.now alive).1 := by
  obtain ⟨alive, r', hstations, heq⟩ := look_eq h
  refine ⟨alive, by rw [heq], ?_⟩
  rw [heq, link?_perform]
  exact link?_setLink ((link?_of_stations hstations k).trans h) _

/-- While an attempt is in flight, an update does nothing at all. -/
theorem look_of_attempting (h : r.link? k = some l) (hattempting : l.attempting = true) :
    r.look k = (.quiet, r) := by
  simp only [look, h, Link.probe?, hattempting, Bool.not_true, Bool.false_and, Bool.false_eq_true,
    ↓reduceIte, Link.poll, perform_nil, setLink_self h]

end

section
variable [Mul τ] [LT τ] [DecidableLT τ]

theorem conclude_eq (h : r.link? k = some l) (a : Attempt) (id : Nat) (up : Bool) :
    r.conclude k a id up = ((l.settle r.now a id up).2.2,
      (r.setLink k (l.settle r.now a id up).1).perform (l.settle r.now a id up).2.1) := by
  rw [conclude, h]

theorem update_of_attempting [Zero τ] [Sub τ] [LE τ] [DecidableLE τ] (h : r.link? k = some l)
    (hattempting : l.attempting = true) (window reaction : Rig σ τ → Rig σ τ) :
    r.update k window reaction = (.ok (), r) := by
  have hlook := look_of_attempting h hattempting
  simp only [link?, Option.map_eq_some_iff] at h
  obtain ⟨s, hs, _⟩ := h
  simp only [update, hs, hlook]

theorem link?_conclude (h : r.link? k = some l) (a : Attempt) (id : Nat) (up : Bool) :
    (r.conclude k a id up).2.link? k = some (l.settle r.now a id up).1 := by
  rw [conclude_eq h, link?_perform, link?_setLink h]

end

end Rig

end PeripheralLink

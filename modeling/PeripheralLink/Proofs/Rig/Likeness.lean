import PeripheralLink.Proofs.Rig.Stations
/-!
Rigs that nothing tells apart.  A relation between rigs is a `Resemblance` if links and outsides look the same on both
sides and the relation survives each thing that is done to them; then it survives whole calls, and these come to the
same on both sides.  What an update tells its sink is a matter apart: `Resemblance.update` asks that the relation
survives it, and of a `Likeness`, with the same sinks on both sides, `Likeness.update` shows that it does.
-/

namespace PeripheralLink

variable {σ σ' τ : Type}

/-- The same result, and rigs in a relation. -/
def Agree {α : Type} (R : Rig σ τ → Rig σ' τ → Prop) (result : α × Rig σ τ) (result' : α × Rig σ' τ) : Prop :=
  result.1 = result'.1 ∧ R result.2 result'.2

theorem Agree.same {α : Type} {R : Rig σ τ → Rig σ' τ → Prop} {a : α} {r : Rig σ τ} {r' : Rig σ' τ} (h : R r r') :
    Agree R (a, r) (a, r') :=
  ⟨rfl, h⟩

theorem Agree.exists {α : Type} {R : Rig σ τ → Rig σ' τ → Prop} {result : α × Rig σ τ} {result' : α × Rig σ' τ}
    (h : Agree R result result') : ∃ a r r', result = (a, r) ∧ result' = (a, r') ∧ R r r' :=
  ⟨result.1, result.2, result'.2, rfl, Prod.ext h.1.symm rfl, h.2⟩

/-- Links and outsides look the same on both sides, and what is done to them keeps the relation. -/
structure Resemblance [Carrier σ τ] [Carrier σ' τ] (R : Rig σ τ → Rig σ' τ → Prop) : Prop where
  station {r : Rig σ τ} {r' : Rig σ' τ} : R r r' → ∀ k : Nat,
    r'.stations[k]?.map (fun s : Station τ => (s.link, s.limits)) =
      r.stations[k]?.map fun s : Station τ => (s.link, s.limits)
  now {r : Rig σ τ} {r' : Rig σ' τ} : R r r' → r'.now = r.now
  record {r : Rig σ τ} {r' : Rig σ' τ} (e : Entry τ) : R r r' → R (r.record e) (r'.record e)
  setLink {r : Rig σ τ} {r' : Rig σ' τ} (k : Nat) (l : Link τ) : R r r' → R (r.setLink k l) (r'.setLink k l)
  building {r : Rig σ τ} {r' : Rig σ' τ} (limits : TransportLimits τ) (target : Target) : R r r' →
    Agree R (r.via fun o => Carrier.build o limits target) (r'.via fun o => Carrier.build o limits target)
  approaching {r : Rig σ τ} {r' : Rig σ' τ} (id : Nat) : R r r' →
    R (r.via fun o => ((), Carrier.approach o id)).2 (r'.via fun o => ((), Carrier.approach o id)).2
  connecting {r : Rig σ τ} {r' : Rig σ' τ} (id : Nat) : R r r' →
    Agree R (r.via fun o => Carrier.connect o id) (r'.via fun o => Carrier.connect o id)
  releasing {r : Rig σ τ} {r' : Rig σ' τ} (id : Nat) : R r r' →
    R (r.via fun o => ((), Carrier.disconnect o id)).2 (r'.via fun o => ((), Carrier.disconnect o id)).2
  probing {r : Rig σ τ} {r' : Rig σ' τ} (id : Nat) : R r r' →
    Agree R (r.via fun o => Carrier.probe o id) (r'.via fun o => Carrier.probe o id)
  sending {r : Rig σ τ} {r' : Rig σ' τ} (id : Nat) (bytes : List UInt8) : R r r' →
    Agree R (r.via fun o => Carrier.send o id bytes) (r'.via fun o => Carrier.send o id bytes)
  receiving {r : Rig σ τ} {r' : Rig σ' τ} (id : Nat) : R r r' →
    Agree R (r.via fun o => Carrier.receive o id) (r'.via fun o => Carrier.receive o id)
  exchanging {r : Rig σ τ} {r' : Rig σ' τ} (id : Nat) (bytes : List UInt8) : R r r' →
    Agree R (r.via fun o => Carrier.exchange o id bytes) (r'.via fun o => Carrier.exchange o id bytes)

/-- With the sinks, and what they read, the same as well. -/
structure Likeness [Carrier σ τ] [Carrier σ' τ] (R : Rig σ τ → Rig σ' τ → Prop) : Prop extends Resemblance R where
  stations {r : Rig σ τ} {r' : Rig σ' τ} : R r r' → r'.stations = r.stations
  clients {r : Rig σ τ} {r' : Rig σ' τ} : R r r' → r'.clients = r.clients
  callbackFault {r : Rig σ τ} {r' : Rig σ' τ} : R r r' → r'.callbackFault = r.callbackFault

namespace Resemblance

variable [Carrier σ τ] [Carrier σ' τ] {R : Rig σ τ → Rig σ' τ → Prop} {r : Rig σ τ} {r' : Rig σ' τ}
variable {reaction window : Rig σ τ → Rig σ τ} {reaction' window' : Rig σ' τ → Rig σ' τ} {k : Nat}

theorem link? (hlike : Resemblance R) (h : R r r') (k : Nat) : r'.link? k = r.link? k := by
  have hlinks := congrArg (Option.map Prod.fst) (hlike.station h k)
  rwa [Option.map_map, Option.map_map] at hlinks

theorem report (hlike : Resemblance R) (h : R r r') (n : Report τ) : R (r.report n) (r'.report n) :=
  hlike.record (.report n) h

theorem perform (hlike : Resemblance R) (h : R r r') (actions : List (LinkAction τ)) :
    R (r.perform actions) (r'.perform actions) := by
  induction actions generalizing r r' with
  | nil => exact h
  | cons action rest ih =>
      cases action with
      | release id => exact ih (hlike.releasing id h)
      | report n => exact ih (hlike.report h _)

theorem change (hlike : Resemblance R) (h : R r r') (operation : Link τ → Link τ × List (LinkAction τ)) :
    R (r.change k operation) (r'.change k operation) := by
  unfold Rig.change
  rw [hlike.link? h]
  cases r.link? k with
  | none => exact h
  | some l => exact hlike.perform (hlike.setLink _ _ h) _

/-- An operation that takes the time. -/
theorem operate (hlike : Resemblance R) (h : R r r') (operation : τ → Link τ → Link τ × List (LinkAction τ)) :
    R (r.change k (operation r.now)) (r'.change k (operation r'.now)) := by
  rw [hlike.now h]
  exact hlike.change h (operation r.now)

theorem send (hlike : Resemblance R) (h : R r r') (m : Message) : Agree R (r.send k m) (r'.send k m) := by
  unfold Rig.send
  rw [hlike.link? h]
  cases (r.link? k).bind Link.channel? with
  | none => exact ⟨rfl, h⟩
  | some id =>
      cases m.lineBytes with
      | error e =>
          dsimp only
          split
          · exact .same (hlike.change (hlike.report h _) _)
          · exact ⟨rfl, h⟩
      | ok bytes =>
          obtain ⟨delivered, r₁, r₁', hr, hr', hsent⟩ := (hlike.sending id bytes h).exists
          dsimp only
          rw [hr, hr']
          exact ⟨rfl, hlike.change hsent _⟩

theorem accept (hlike : Resemblance R) (h : R r r') (line : Option (List UInt8)) :
    Agree R (r.accept k line) (r'.accept k line) := by
  unfold Rig.accept
  rw [hlike.link? h]
  cases r.link? k with
  | none => exact ⟨rfl, h⟩
  | some l => exact ⟨rfl, hlike.perform (hlike.setLink _ _ h) _⟩

theorem receive (hlike : Resemblance R) (h : R r r') : Agree R (r.receive k) (r'.receive k) := by
  unfold Rig.receive
  rw [hlike.link? h]
  cases (r.link? k).bind Link.channel? with
  | none => exact ⟨rfl, h⟩
  | some id =>
      obtain ⟨line, r₁, r₁', hr, hr', hreceived⟩ := (hlike.receiving id h).exists
      dsimp only
      rw [hr, hr']
      exact hlike.accept hreceived line

theorem request (hlike : Resemblance R) (h : R r r') (m : Message) : Agree R (r.request k m) (r'.request k m) := by
  unfold Rig.request
  rw [hlike.link? h]
  cases (r.link? k).bind Link.channel? with
  | none => exact ⟨rfl, h⟩
  | some id =>
      cases m.lineBytes with
      | error e =>
          dsimp only
          split
          · exact .same (hlike.change (hlike.report h _) _)
          · exact ⟨rfl, h⟩
      | ok bytes =>
          obtain ⟨exchanged, r₁, r₁', hr, hr', hexchanged⟩ := (hlike.exchanging id bytes h).exists
          dsimp only
          rw [hr, hr']
          cases exchanged with
          | error fault => exact ⟨rfl, hexchanged⟩
          | ok line =>
              dsimp only
              split
              · exact hlike.accept (hlike.change hexchanged _) line
              · exact hlike.accept hexchanged line

section

variable [Mul τ] [LT τ] [DecidableLT τ]

theorem conclude (hlike : Resemblance R) (h : R r r') (a : Attempt) (id : Nat) (up : Bool) :
    Agree R (r.conclude k a id up) (r'.conclude k a id up) := by
  unfold Rig.conclude
  rw [hlike.link? h, hlike.now h]
  cases r.link? k with
  | none => exact ⟨rfl, h⟩
  | some l => exact ⟨rfl, hlike.perform (hlike.setLink _ _ h) _⟩

theorem attempt (hlike : Resemblance R) (hwindow : ∀ r r', R r r' → R (window r) (window' r')) {sink sink' : Sink}
    (htell : ∀ r r' e, R r r' → R (r.tell sink e reaction) (r'.tell sink' e reaction')) (h : R r r')
    (limits : TransportLimits τ) (a : Attempt) :
    Agree R (r.attempt k limits sink a window reaction) (r'.attempt k limits sink' a window' reaction') := by
  obtain ⟨built, r₁, r₁', hr, hr', hbuilt⟩ := (hlike.building limits a.target h).exists
  unfold Rig.attempt
  rw [hr, hr']
  cases built with
  | error fault => exact ⟨rfl, hlike.change hbuilt fun l => (l.abort, [])⟩
  | ok id =>
      obtain ⟨up, r₂, r₂', hr, hr', hconnected⟩ :=
        (hlike.connecting id (hwindow _ _ (hlike.approaching id hbuilt))).exists
      dsimp only
      rw [hr, hr']
      cases up with
      | error fault => exact ⟨rfl, hlike.change hconnected fun l => (l.abort, [])⟩
      | ok up =>
          obtain ⟨edge, r₃, r₃', hr, hr', hconcluded⟩ := (hlike.conclude (k := k) hconnected a id up).exists
          dsimp only
          rw [hr, hr']
          cases edge with
          | none => exact ⟨rfl, hconcluded⟩
          | some e => exact ⟨rfl, htell _ _ e hconcluded⟩

end

variable [Zero τ] [Sub τ] [LE τ] [DecidableLE τ] [LT τ] [DecidableLT τ]

theorem look (hlike : Resemblance R) (h : R r r') : Agree R (r.look k) (r'.look k) := by
  unfold Rig.look
  rw [hlike.link? h, hlike.now h]
  cases r.link? k with
  | none => exact ⟨rfl, h⟩
  | some l =>
      dsimp only
      cases l.probe? r.now with
      | none => exact ⟨rfl, hlike.perform (hlike.setLink _ _ h) _⟩
      | some id =>
          obtain ⟨halive, hprobed⟩ := hlike.probing id h
          dsimp only
          rw [halive]
          exact ⟨rfl, hlike.perform (hlike.setLink _ _ hprobed) _⟩

/-- An update keeps a resemblance and comes to the same on both sides, as long as the calls inside it do and the
resemblance survives what the sinks of its link are told. -/
theorem update [Mul τ] (hlike : Resemblance R) (hwindow : ∀ r r', R r r' → R (window r) (window' r'))
    (htell : ∀ s s', r.stations[k]? = some s → r'.stations[k]? = some s' →
      ∀ r r' e, R r r' → R (r.tell s.sink e reaction) (r'.tell s'.sink e reaction')) (h : R r r') :
    Agree R (r.update k window reaction) (r'.update k window' reaction') := by
  have hstation := hlike.station h k
  unfold Rig.update
  cases hs : r.stations[k]? with
  | none =>
      rw [hs] at hstation
      rw [Option.map_eq_none_iff.mp hstation]
      exact ⟨rfl, h⟩
  | some s =>
      rw [hs, Option.map_some] at hstation
      obtain ⟨s', hs', hsame⟩ := Option.map_eq_some_iff.mp hstation
      have hlimits : s'.limits = s.limits := congrArg Prod.snd hsame
      obtain ⟨polled, r₁, r₁', hr, hr', hlooked⟩ := (hlike.look (k := k) h).exists
      rw [hs']
      dsimp only
      rw [hr, hr', hlimits]
      cases polled with
      | quiet => exact ⟨rfl, hlooked⟩
      | edge e => exact ⟨rfl, htell s s' hs hs' _ _ e hlooked⟩
      | attempt a => exact hlike.attempt hwindow (htell s s' hs hs') hlooked _ a

end Resemblance

namespace Likeness

variable [Carrier σ τ] [Carrier σ' τ] {R : Rig σ τ → Rig σ' τ → Prop} {r : Rig σ τ} {r' : Rig σ' τ}
variable {reaction window : Rig σ τ → Rig σ τ} {reaction' window' : Rig σ' τ → Rig σ' τ} {k : Nat}

theorem deliver (hlike : Likeness R) (hreaction : ∀ r r', R r r' → R (reaction r) (reaction' r')) (h : R r r')
    (sink : Sink) (n : Notification) : Agree R (r.deliver sink n reaction) (r'.deliver sink n reaction') := by
  cases sink with
  | log => exact ⟨rfl, hlike.report h _⟩
  | callback =>
      have hreacted := hreaction _ _ (hlike.record (.notified n) h)
      refine ⟨?_, hreacted⟩
      simp only [Rig.deliver, hlike.callbackFault hreacted]
  | bare => exact ⟨rfl, h⟩
  | backend url client =>
      simp only [Rig.deliver, hlike.clients h]
      split
      · have hemitted := hlike.record (.client (.emit notificationEvent n)) h
        split
        · exact ⟨rfl, hemitted⟩
        · exact ⟨rfl, hlike.report hemitted _⟩
        · exact ⟨rfl, hlike.report hemitted _⟩
        · exact ⟨rfl, hemitted⟩
      · exact ⟨rfl, hlike.report h _⟩

theorem tell (hlike : Likeness R) (hreaction : ∀ r r', R r r' → R (reaction r) (reaction' r')) (h : R r r')
    (sink : Sink) (e : Edge) : R (r.tell sink e reaction) (r'.tell sink e reaction') := by
  obtain ⟨result, r₁, r₁', hr, hr', hdelivered⟩ := (hlike.deliver hreaction h sink e.notification).exists
  unfold Rig.tell
  rw [hr, hr']
  cases result with
  | ok _ => exact hdelivered
  | error fault => exact hlike.report hdelivered _

variable [Zero τ] [Sub τ] [Mul τ] [LE τ] [DecidableLE τ] [LT τ] [DecidableLT τ]

/-- An update keeps a likeness and comes to the same on both sides, as long as the calls inside it do. -/
theorem update (hlike : Likeness R) (hwindow : ∀ r r', R r r' → R (window r) (window' r'))
    (hreaction : ∀ r r', R r r' → R (reaction r) (reaction' r')) (h : R r r') :
    Agree R (r.update k window reaction) (r'.update k window' reaction') := by
  apply hlike.toResemblance.update hwindow _ h
  intro s s' hs hs' _ _ e h'
  obtain rfl : s = s' := by
    rw [hlike.stations h, hs] at hs'
    exact Option.some.inj hs'
  exact hlike.tell hreaction h' s.sink e

end Likeness

end PeripheralLink

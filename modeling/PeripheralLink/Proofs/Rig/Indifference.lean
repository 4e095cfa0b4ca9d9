import Mathlib.Algebra.Ring.Int.Defs
import PeripheralLink.Scenario.Run
import PeripheralLink.Proofs.Rig.Likeness
/-!
A sink that fails does not reach the link.  Two runs of the same calls over the same outside, with sinks of whatever
kind, whatever these come to in each run, differ only in what the sinks leave in the journal: every notification is
handed over in both, in the same place.

`Rig.Twins` is what holds of the two rigs all along.  It is a `Resemblance`, so that whole calls keep it, and it
survives what the sinks are told, since telling a sink changes nothing but clients, what callbacks raise and the
journal.
-/

namespace PeripheralLink

variable {σ τ : Type} {n : Notification} {k : Nat} {sinks sinks' : Nat → Sink}

/-- What a sink that is handed a notification leaves in the journal, the report of its failure included. -/
inductive Response (n : Notification) : Sink → List (Entry τ) → Prop
  | shown : Response n .log [.report (.sink (.shown n))]
  | returned : Response n .callback [.notified n]
  | raised (text : String) : Response n .callback [.notified n, .report (.sink (.sinkFailed text))]
  | missing : Response n .bare [.report (.sink (.sinkFailed Fault.missing.text))]
  | offline (url : String) (client : Nat) : Response n (.backend url client) [.report (.sink (.shownOffline n))]
  | emitted (url : String) (client : Nat) :
      Response n (.backend url client) [.client (.emit notificationEvent n)]
  | unsent (url : String) (client : Nat) (text : String) : Response n (.backend url client)
      [.client (.emit notificationEvent n), .report (.sink (.emitFailed text))]
  | broken (url : String) (client : Nat) (text : String) : Response n (.backend url client)
      [.client (.emit notificationEvent n), .report (.sink (.sinkFailed text))]

/-- What goes on in a run, apart from what becomes of a notification in a sink. -/
inductive Doing (τ : Type)
  | entry (e : Entry τ)
  | notify (k : Nat) (n : Notification)

/-- What goes on in a run, and the journal that it leaves with the given sinks. -/
inductive Written (sinks : Nat → Sink) : List (Doing τ) → List (Entry τ) → Prop
  | nil : Written sinks [] []
  | entry {doings : List (Doing τ)} {entries : List (Entry τ)} (e : Entry τ) (h : Written sinks doings entries) :
      Written sinks (.entry e :: doings) (e :: entries)
  | notify {doings : List (Doing τ)} {left entries : List (Entry τ)} (k : Nat) (n : Notification)
      (hleft : Response n (sinks k) left) (h : Written sinks doings entries) :
      Written sinks (.notify k n :: doings) (left ++ entries)

/-- What a sink is handed, what it does with it and what is reported of it. -/
def Entry.isOfSink : Entry τ → Bool
  | .notified _ => true
  | .client _ => true
  | .report (.sink _) => true
  | _ => false

def Entry.isSinkFailure : Entry τ → Bool
  | .report (.sink (.sinkFailed _)) => true
  | _ => false

theorem Response.filter_isOfSink {sink : Sink} {left : List (Entry τ)} (h : Response n sink left) :
    left.filter (!·.isOfSink) = [] := by
  cases h <;> rfl

theorem Response.filter_isSinkFailure {left : List (Entry τ)} (h : Response n .callback left) :
    left.filter (!·.isSinkFailure) = [.notified n] := by
  cases h <;> rfl

namespace Written

variable {doings doings' : List (Doing τ)} {entries entries' : List (Entry τ)}

theorem append (h : Written sinks doings entries) (h' : Written sinks doings' entries') :
    Written sinks (doings ++ doings') (entries ++ entries') := by
  induction h with
  | nil => exact h'
  | entry e _ ih => exact .entry e ih
  | notify k n hleft _ ih =>
      rw [List.append_assoc]
      exact .notify k n hleft ih

/-- Whatever the sinks, what they have no part in is written as it is. -/
theorem of_entries (sinks : Nat → Sink) (entries : List (Entry τ)) : Written sinks (entries.map .entry) entries := by
  induction entries with
  | nil => exact .nil
  | cons e entries ih => exact .entry e ih

/-- Of two journals that the same things leave with different sinks, whatever part the sinks leave alike is the same. -/
theorem filter_eq {p : Entry τ → Bool} (trace : Notification → List (Entry τ))
    (hleft : ∀ k n left, Response n (sinks k) left → left.filter p = trace n)
    (hleft' : ∀ k n left, Response n (sinks' k) left → left.filter p = trace n)
    (h : Written sinks doings entries) (h' : Written sinks' doings entries') :
    entries'.filter p = entries.filter p := by
  induction h generalizing entries' with
  | nil =>
      cases h'
      rfl
  | entry e _ ih =>
      cases h' with
      | entry _ h' => rw [List.filter_cons, List.filter_cons, ih h']
  | notify k n hresponse _ ih =>
      cases h' with
      | notify _ _ hresponse' h' =>
          rw [List.filter_append, List.filter_append, hleft k n _ hresponse, hleft' k n _ hresponse', ih h']

end Written

namespace Rig

variable {mood mood' : Rig σ τ → Rig σ τ} {r r' : Rig σ τ}

/-- Changes nothing but the clients and what callbacks raise, as sinks do that do not call back.  Whether one that is
told returns or raises may depend on all that has happened, the notifications it has had included. -/
def Private (mood : Rig σ τ → Rig σ τ) : Prop :=
  ∀ r, ∃ clients callbackFault, mood r = { r with clients, callbackFault }

/-- Telling such a sink of an edge changes nothing else, but for what it leaves in the journal. -/
theorem Private.tell (hmood : Private mood) (r : Rig σ τ) (sink : Sink) (e : Edge) :
    ∃ (left : List (Entry τ)) (clients : Array Client) (callbackFault : Option String),
      Response e.notification sink left ∧
        r.tell sink e mood = { r with clients, callbackFault, journal := r.journal ++ left } := by
  cases sink with
  | log => exact ⟨_, r.clients, r.callbackFault, .shown, rfl⟩
  | callback =>
      obtain ⟨clients, callbackFault, hreacted⟩ := hmood (r.record (.notified e.notification))
      unfold Rig.tell Rig.deliver
      dsimp only
      rw [hreacted]
      cases callbackFault with
      | none => exact ⟨_, clients, none, .returned, rfl⟩
      | some text => exact ⟨_, clients, some text, .raised text, rfl⟩
  | bare => exact ⟨_, r.clients, r.callbackFault, .missing, rfl⟩
  | backend url client =>
      unfold Rig.tell Rig.deliver
      dsimp only
      by_cases hconnected : (r.clients[client]?.getD {}).connected
      · rw [if_pos hconnected]
        cases (r.clients[client]?.getD {}).emitFault with
        | none => exact ⟨_, r.clients, r.callbackFault, .emitted url client, rfl⟩
        | some fault =>
            cases fault with
            | refused text => exact ⟨_, r.clients, r.callbackFault, .unsent url client text, rfl⟩
            | backend text => exact ⟨_, r.clients, r.callbackFault, .unsent url client text, rfl⟩
            | _ => exact ⟨_, r.clients, r.callbackFault, .broken url client _, rfl⟩
      · rw [if_neg hconnected]
        exact ⟨_, r.clients, r.callbackFault, .offline url client, rfl⟩

def withSinks (r : Rig σ τ) (sinks : Nat → Sink) : Rig σ τ :=
  { r with stations := r.stations.mapIdx fun k s => { s with sink := sinks k } }

/-- The sinks of the links are the given ones. -/
def Equipped (sinks : Nat → Sink) (r : Rig σ τ) : Prop := ∀ k s, r.stations[k]? = some s → s.sink = sinks k

theorem equipped_withSinks (r : Rig σ τ) (sinks : Nat → Sink) : (r.withSinks sinks).Equipped sinks := by
  intro k s hs
  simp only [withSinks, Array.getElem?_mapIdx, Option.map_eq_some_iff] at hs
  obtain ⟨s, -, rfl⟩ := hs
  rfl

theorem Equipped.setLink (h : r.Equipped sinks) (k : Nat) (l : Link τ) : (r.setLink k l).Equipped sinks := by
  intro j s hs
  simp only [Rig.setLink, Array.getElem?_modify] at hs
  split at hs
  · obtain ⟨s₀, hs₀, rfl⟩ := Option.map_eq_some_iff.mp hs
    exact h j s₀ hs₀
  · exact h j s hs

/-- Two rigs that differ in their sinks, and in what these come to. -/
structure Twins (sinks sinks' : Nat → Sink) (r r' : Rig σ τ) : Prop where
  outside : r'.outside = r.outside
  station (k : Nat) : r'.stations[k]?.map (fun s : Station τ => (s.link, s.limits)) =
    r.stations[k]?.map fun s : Station τ => (s.link, s.limits)
  equipped : r.Equipped sinks
  equipped' : r'.Equipped sinks'
  written : ∃ doings, Written sinks doings r.journal.toList ∧ Written sinks' doings r'.journal.toList

namespace Twins

theorem withSinks (r : Rig σ τ) (sinks sinks' : Nat → Sink) :
    Twins sinks sinks' (r.withSinks sinks) (r.withSinks sinks') where
  outside := rfl
  station k := by simp [Rig.withSinks, Function.comp_def]
  equipped := equipped_withSinks r sinks
  equipped' := equipped_withSinks r sinks'
  written := ⟨_, .of_entries sinks _, .of_entries sinks' _⟩

theorem reach (h : Twins sinks sinks' r r') (o : σ) :
    Twins sinks sinks' { r with outside := o } { r' with outside := o } where
  outside := rfl
  station := h.station
  equipped := h.equipped
  equipped' := h.equipped'
  written := h.written

/-- What the sinks come to is of no account. -/
theorem reacted (h : Twins sinks sinks' r r') (hmood : Private mood) (hmood' : Private mood') :
    Twins sinks sinks' (mood r) (mood' r') := by
  obtain ⟨clients, callbackFault, hr⟩ := hmood r
  obtain ⟨clients', callbackFault', hr'⟩ := hmood' r'
  rw [hr, hr']
  exact ⟨h.outside, h.station, h.equipped, h.equipped', h.written⟩

/-- The same goes on in both. -/
theorem write (h : Twins sinks sinks' r r') {doings : List (Doing τ)} {left left' : List (Entry τ)}
    (hleft : Written sinks doings left) (hleft' : Written sinks' doings left') :
    Twins sinks sinks' { r with journal := r.journal ++ left } { r' with journal := r'.journal ++ left' } where
  outside := h.outside
  station := h.station
  equipped := h.equipped
  equipped' := h.equipped'
  written := by
    obtain ⟨earlier, hwritten, hwritten'⟩ := h.written
    refine ⟨earlier ++ doings, ?_, ?_⟩
    · rw [Array.toList_appendList]
      exact hwritten.append hleft
    · rw [Array.toList_appendList]
      exact hwritten'.append hleft'

theorem record (h : Twins sinks sinks' r r') (e : Entry τ) : Twins sinks sinks' (r.record e) (r'.record e) :=
  h.write (.of_entries sinks [e]) (.of_entries sinks' [e])

theorem setLink (h : Twins sinks sinks' r r') (k : Nat) (l : Link τ) :
    Twins sinks sinks' (r.setLink k l) (r'.setLink k l) where
  outside := h.outside
  station j := by
    have hlink := congrArg (Option.map fun station => (l, station.2)) (h.station j)
    simp only [Option.map_map, Function.comp_def] at hlink
    simp only [Rig.setLink, Array.getElem?_modify]
    split
    · simpa only [Option.map_map, Function.comp_def] using hlink
    · exact h.station j
  equipped := h.equipped.setLink k l
  equipped' := h.equipped'.setLink k l
  written := h.written

/-- Each is told of an edge, by the sinks of the same link. -/
theorem tell (h : Twins sinks sinks' r r') (hmood : Private mood) (hmood' : Private mood') (k : Nat) (e : Edge) :
    Twins sinks sinks' (r.tell (sinks k) e mood) (r'.tell (sinks' k) e mood') := by
  obtain ⟨left, clients, callbackFault, hleft, hr⟩ := hmood.tell r (sinks k) e
  obtain ⟨left', clients', callbackFault', hleft', hr'⟩ := hmood'.tell r' (sinks' k) e
  have hwritten : Written sinks [.notify k e.notification] left := by
    simpa using Written.notify k e.notification hleft .nil
  have hwritten' : Written sinks' [.notify k e.notification] left' := by
    simpa using Written.notify k e.notification hleft' .nil
  have htwins := h.write hwritten hwritten'
  rw [hr, hr']
  exact ⟨htwins.outside, htwins.station, htwins.equipped, htwins.equipped', htwins.written⟩

variable [Carrier σ τ]

theorem via {α : Type} (h : Twins sinks sinks' r r') (call : σ → α × σ) :
    Agree (Twins sinks sinks') (r.via call) (r'.via call) := by
  unfold Rig.via
  rw [h.outside]
  refine .same ?_
  exact (h.reach _).write (.of_entries sinks _) (.of_entries sinks' _)

/-- Nothing tells twins apart. -/
theorem resemblance (sinks sinks' : Nat → Sink) :
    Resemblance (Twins sinks sinks' : Rig σ τ → Rig σ τ → Prop) where
  station h := h.station
  now h := congrArg Carrier.now h.outside
  record e h := h.record e
  setLink k l h := h.setLink k l
  building limits target h := h.via fun o => Carrier.build o limits target
  approaching id h := (h.via fun o => ((), Carrier.approach o id)).2
  connecting id h := h.via fun o => Carrier.connect o id
  releasing id h := (h.via fun o => ((), Carrier.disconnect o id)).2
  probing id h := h.via fun o => Carrier.probe o id
  sending id bytes h := h.via fun o => Carrier.send o id bytes
  receiving id h := h.via fun o => Carrier.receive o id
  exchanging id bytes h := h.via fun o => Carrier.exchange o id bytes

end Twins

end Rig

/-- What is done in a run: calls on a link, and whatever else happens to the outside between them.  Other threads make
their calls while an update connects; those that they make while a sink is told come after the update, in which nothing
is left to be done by then. -/
inductive Deed (σ τ : Type)
  | setEnabled (k : Nat) (on : Bool)
  | configure (k : Nat) (target : Target)
  | shutDown (k : Nat)
  | send (k : Nat) (m : Message)
  | receive (k : Nat)
  | request (k : Nat) (m : Message)
  | update (k : Nat) (meanwhile : List (Deed σ τ))
  | outside (change : σ → σ)

namespace Rig

section

variable [Carrier σ τ] [Sub τ]

/-- Enters the answer of a call, with the link as it is seen after it. -/
def noted (r : Rig σ τ) (k : Nat) (answer : Answer τ) : Rig σ τ :=
  r.record (.during [.mk answer ((r.link? k).map fun l => ⟨l.stats, r.now - l.enteredAt⟩) []])

namespace Twins

variable {r r' : Rig σ τ}

theorem noted (h : Twins sinks sinks' r r') (k : Nat) (answer : Answer τ) :
    Twins sinks sinks' (r.noted k answer) (r'.noted k answer) := by
  unfold Rig.noted
  rw [(resemblance sinks sinks').link? h, (resemblance sinks sinks').now h]
  exact h.record _

/-- A call that comes to the same for both is noted alike. -/
theorem answered {α : Type} {result result' : α × Rig σ τ} (h : Agree (Twins sinks sinks') result result') (k : Nat)
    (answer : α → Answer τ) :
    Twins sinks sinks' (result.2.noted k (answer result.1)) (result'.2.noted k (answer result'.1)) := by
  rw [← h.1]
  exact h.2.noted k (answer result.1)

end Twins

end

end Rig

section

variable [Carrier σ τ] [Zero τ] [Sub τ] [Mul τ] [LE τ] [DecidableLE τ] [LT τ] [DecidableLT τ]

mutual

/-- Does one thing.  `mood` is what the sinks are up to: before each call, and within it where one of them is told. -/
def Deed.run (mood : Rig σ τ → Rig σ τ) : Deed σ τ → Rig σ τ → Rig σ τ
  | .setEnabled k on, r => ((mood r).setEnabled k on).noted k .nothing
  | .configure k target, r => ((mood r).configure k target).noted k .nothing
  | .shutDown k, r => ((mood r).shutDownLink k).noted k .nothing
  | .send k m, r =>
      let (result, r) := (mood r).send k m
      r.noted k (Scenario.answer .flag result)
  | .receive k, r =>
      let (result, r) := (mood r).receive k
      r.noted k (Scenario.answer .reply result)
  | .request k m, r =>
      let (result, r) := (mood r).request k m
      r.noted k (Scenario.answer .reply result)
  | .update k meanwhile, r =>
      let (result, r) := (mood r).update k (fun r => mood (Deed.runAll mood meanwhile r)) mood
      r.noted k (Scenario.answer (fun _ => .nothing) result)
  | .outside change, r => { r with outside := change r.outside }

def Deed.runAll (mood : Rig σ τ → Rig σ τ) : List (Deed σ τ) → Rig σ τ → Rig σ τ
  | [], r => r
  | d :: rest, r => Deed.runAll mood rest (d.run mood r)

end

namespace Rig

variable {mood mood' : Rig σ τ → Rig σ τ} {r r' : Rig σ τ}

namespace Twins

/-- An update, with calls of other threads that keep twins alike. -/
theorem update (h : Twins sinks sinks' r r') (hmood : Private mood) (hmood' : Private mood')
    {window window' : Rig σ τ → Rig σ τ}
    (hwindow : ∀ r r', Twins sinks sinks' r r' → Twins sinks sinks' (window r) (window' r')) (k : Nat) :
    Agree (Twins sinks sinks') (r.update k window mood) (r'.update k window' mood') := by
  apply (resemblance sinks sinks').update hwindow _ h
  intro s s' hs hs' r₁ r₁' e h₁
  rw [h.equipped k s hs, h.equipped' k s' hs']
  exact h₁.tell hmood hmood' k e

mutual

theorem run (hmood : Private mood) (hmood' : Private mood') :
    ∀ (d : Deed σ τ) {r r' : Rig σ τ}, Twins sinks sinks' r r' → Twins sinks sinks' (d.run mood r) (d.run mood' r')
  | .setEnabled k on, _, _, h => by
      have hchanged := (resemblance sinks sinks').operate (k := k) (h.reacted hmood hmood')
        fun now l => l.setEnabled now on
      exact hchanged.noted k .nothing
  | .configure k target, _, _, h => by
      have hchanged := (resemblance sinks sinks').operate (k := k) (h.reacted hmood hmood')
        fun now l => l.configure now target
      exact hchanged.noted k .nothing
  | .shutDown k, _, _, h => by
      have hchanged := (resemblance sinks sinks').operate (k := k) (h.reacted hmood hmood')
        fun now l => l.shutDown now
      exact hchanged.noted k .nothing
  | .send k m, _, _, h => by
      have hsent := (resemblance sinks sinks').send (k := k) (h.reacted hmood hmood') m
      exact answered hsent k (Scenario.answer .flag)
  | .receive k, _, _, h => by
      have hreceived := (resemblance sinks sinks').receive (k := k) (h.reacted hmood hmood')
      exact answered hreceived k (Scenario.answer .reply)
  | .request k m, _, _, h => by
      have hreplied := (resemblance sinks sinks').request (k := k) (h.reacted hmood hmood') m
      exact answered hreplied k (Scenario.answer .reply)
  | .update k meanwhile, _, _, h => by
      apply answered ((h.reacted hmood hmood').update hmood hmood' _ k)
      intro r r' hclaimed
      exact (runAll hmood hmood' meanwhile hclaimed).reacted hmood hmood'
  | .outside change, r, r', h => by
      rw [Deed.run, Deed.run, h.outside]
      exact h.reach (change r.outside)

/-- Twins stay twins. -/
theorem runAll (hmood : Private mood) (hmood' : Private mood') : ∀ (deeds : List (Deed σ τ)) {r r' : Rig σ τ},
    Twins sinks sinks' r r' → Twins sinks sinks' (Deed.runAll mood deeds r) (Deed.runAll mood' deeds r')
  | [], _, _, h => h
  | d :: rest, _, _, h => runAll hmood hmood' rest (run hmood hmood' d h)

end

end Twins

/-- What sinks there are, and whether they return or raise, is nothing to the links.  After the same deeds, the
outside and all links are the same, and the same notifications have been handed over among the same entries.  The
journals, with the answers of all calls and the links after them, are the same but for what the sinks leave there; and
with callbacks alone, but for the reports that a sink has failed. -/
theorem sinks_do_not_interfere (r : Rig σ τ) (sinks sinks' : Nat → Sink) (hmood : Private mood)
    (hmood' : Private mood') (deeds : List (Deed σ τ)) :
    let s := Deed.runAll mood deeds (r.withSinks sinks)
    let s' := Deed.runAll mood' deeds (r.withSinks sinks')
    s'.outside = s.outside ∧ (∀ k, s'.link? k = s.link? k) ∧
      (∃ doings, Written sinks doings s.journal.toList ∧ Written sinks' doings s'.journal.toList) ∧
      s'.journal.toList.filter (!·.isOfSink) = s.journal.toList.filter (!·.isOfSink) ∧
      ((∀ k, sinks k = .callback) → (∀ k, sinks' k = .callback) →
        s'.journal.toList.filter (!·.isSinkFailure) = s.journal.toList.filter (!·.isSinkFailure)) := by
  intro s s'
  have htwins : Twins sinks sinks' s s' := Twins.runAll hmood hmood' deeds (.withSinks r sinks sinks')
  obtain ⟨doings, hwritten, hwritten'⟩ := htwins.written
  refine ⟨htwins.outside, (Twins.resemblance sinks sinks').link? htwins, htwins.written, ?_, ?_⟩
  · refine hwritten.filter_eq (fun _ => []) ?_ ?_ hwritten'
    · intro k n left hleft
      exact hleft.filter_isOfSink
    · intro k n left hleft
      exact hleft.filter_isOfSink
  · intro hsinks hsinks'
    refine hwritten.filter_eq (fun n => [.notified n]) ?_ ?_ hwritten'
    · intro k n left hleft
      rw [hsinks k] at hleft
      exact hleft.filter_isSinkFailure
    · intro k n left hleft
      rw [hsinks' k] at hleft
      exact hleft.filter_isSinkFailure

def unopened : Rig (Scripted Int) Int :=
  (addLink { outside := { clock := 0 } } ⟨⟨3, 1, defaultLineLimit⟩, {}, 5, 0, .start 1 2 30⟩
    ⟨.text "10.0.0.2", .int 7000⟩ .log).2

/-- The link connects, loses its peer and finds it again. -/
def lossAndReturn : List (Deed (Scripted Int) Int) :=
  [.setEnabled 0 true, .update 0 [], .update 0 [.receive 0],
    .outside fun o => { o with clock := 5, alive := false }, .update 0 [],
    .outside fun o => { o with clock := 9, alive := true }, .update 0 []]

/-- Callbacks that raise as long as the peer is dead. -/
def raising (r : Rig (Scripted Int) Int) : Rig (Scripted Int) Int :=
  { r with callbackFault := if r.outside.alive then none else some "out of order" }

/-- Callbacks that do not raise, and such as raise when they are told of the loss. -/
theorem sinks_do_not_interfere_raising :
    let s := Deed.runAll id lossAndReturn (unopened.withSinks fun _ => .callback)
    let s' := Deed.runAll raising lossAndReturn (unopened.withSinks fun _ => .callback)
    s.journal.toList.countP (·.isSinkFailure) = 0 ∧ s'.journal.toList.countP (·.isSinkFailure) = 1 ∧
      s'.journal.toList.filter (!·.isSinkFailure) = s.journal.toList.filter (!·.isSinkFailure) ∧
      (s'.link? 0).map Link.stats = (s.link? 0).map Link.stats := by
  have hquiet : Private (id : Rig (Scripted Int) Int → Rig (Scripted Int) Int) :=
    fun r => ⟨r.clients, r.callbackFault, rfl⟩
  have hraising : Private raising := fun r => ⟨r.clients, _, rfl⟩
  obtain ⟨-, hlink, -, -, hjournal⟩ :=
    sinks_do_not_interfere unopened (fun _ => .callback) (fun _ => .callback) hquiet hraising lossAndReturn
  refine ⟨?_, ?_, ?_, ?_⟩
  · rfl
  · rfl
  · exact hjournal (fun _ => rfl) fun _ => rfl
  · exact congrArg (Option.map Link.stats) (hlink 0)

end Rig

end

end PeripheralLink

import PeripheralLink.Proofs.Rig.Handed
import PeripheralLink.Proofs.Rig.Table
/-!
What a sink is told.  The edges that a run crosses are read off the phases before and after each hold of
the lock and off what held it; what is told is what is handed to the sink.  A `Chronicle` is a run of one
link with both in the order in which they happened.  Other calls may come in while a connection is being
made and out of the sink, and the sink may raise.

`Chronicle.tidings_eq_crossings` is the law of the trace: each edge is told once, at once, and nothing else is.
-/

namespace PeripheralLink

/-- What held the lock while a link may have changed its phase. -/
inductive Cause
  | call
  | poll (health : Option Bool)
  | attempt (origin : Phase)

/-- The edge between two phases.  The connected phase is entered by an attempt, and which edge that is
depends on where the attempt was claimed; it is lost by a health check that failed.  Leaving it in any
other way is no edge. -/
def Cause.edge? (old next : Phase) : Cause → Option Edge
  | call => none
  | poll health =>
    if old = .connected ∧ next ≠ .connected ∧ health = some false then some .disconnected else none
  | attempt origin =>
    if old ≠ .connected ∧ next = .connected then
      match origin with
      | .connecting => some .connected
      | .reconnecting => some .reconnected
      | _ => none
    else none

theorem Cause.edge?_disconnected {old next : Phase} {cause : Cause}
    (h : cause.edge? old next = some .disconnected) : old = .connected ∧ next ≠ .connected := by
  cases cause with
  | call => cases h
  | poll health =>
      simp only [edge?, Option.ite_none_right_eq_some] at h
      exact ⟨h.1.1, h.1.2.1⟩
  | attempt origin =>
      simp only [edge?, Option.ite_none_right_eq_some] at h
      cases origin <;> simp at h

def Polled.edge? : Polled → Option Edge
  | edge e => some e
  | _ => none

/-- What happens to an edge. -/
inductive Event
  | crossed (e : Edge)
  | told (e : Edge)
deriving DecidableEq

/-- The edges that are crossed in a trace. -/
def crossings (log : List Event) : List Edge :=
  log.filterMap fun | .crossed e => some e | .told _ => none

/-- The edges that are told in a trace. -/
def tidings (log : List Event) : List Edge :=
  log.filterMap fun | .told e => some e | .crossed _ => none

theorem crossings_append (log log' : List Event) :
    crossings (log ++ log') = crossings log ++ crossings log' :=
  List.filterMap_append

theorem tidings_append (log log' : List Event) :
    tidings (log ++ log') = tidings log ++ tidings log' :=
  List.filterMap_append

@[simp] theorem crossings_crossed (due : Option Edge) :
    crossings (due.toList.map .crossed) = due.toList := by
  cases due <;> rfl

@[simp] theorem tidings_crossed (due : Option Edge) : tidings (due.toList.map .crossed) = [] := by
  cases due <;> rfl

def prompt (edges : List Edge) : List Event := edges.flatMap fun e => [.crossed e, .told e]

@[simp] theorem crossings_prompt (edges : List Edge) : crossings (prompt edges) = edges := by
  induction edges with
  | nil => rfl
  | cons e edges ih => exact congrArg (e :: ·) ih

theorem prompt_concat (edges : List Edge) (e : Edge) :
    prompt (edges ++ [e]) = prompt edges ++ [.crossed e, .told e] := by
  simp [prompt]

/-- Every loss of the connection comes right after an edge that made it. -/
def Alternating (edges : List Edge) : Prop :=
  ∀ before after, edges = before ++ .disconnected :: after →
    ∃ earlier e, before = earlier ++ [e] ∧ e ≠ .disconnected

theorem Alternating.of_append {edges rest : List Edge} (h : Alternating (edges ++ rest)) :
    Alternating edges := by
  rintro before after rfl
  exact h before (after ++ rest) (by simp)

theorem Alternating.concat {edges : List Edge} (h : Alternating edges) {e : Edge}
    (he : e = .disconnected → ∃ earlier e, edges = earlier ++ [e] ∧ e ≠ .disconnected) :
    Alternating (edges ++ [e]) := by
  intro before after hsplit
  rcases List.eq_nil_or_concat after with rfl | ⟨after, last, rfl⟩
  · obtain ⟨rfl, hlast⟩ := List.append_inj' hsplit rfl
    exact he (List.cons.inj hlast).1
  · have hinit : edges ++ [e] = (before ++ .disconnected :: after) ++ [last] := by simpa using hsplit
    exact h before after (List.append_inj_left' hinit rfl)

namespace Link

variable {τ : Type} {l l' : Link τ} {inFlight : List Attempt} {cause : Cause} {due : Option Edge}

/-- What one hold of the lock does to a link, as far as its edges go: `due` is the edge that is to be
told after it. -/
structure Passage (l : Link τ) (cause : Cause) (due : Option Edge) (l' : Link τ) : Prop where
  due_eq : due = cause.edge? l.phase l'.phase
  reconnects :
    l'.counters.reconnects = l.counters.reconnects + if due = some .reconnected then 1 else 0
  entered : l'.phase = .connected → due = none → l.phase = .connected

/-- Whatever keeps the connected phase from being entered or lost crosses no edge. -/
theorem Passage.level (hedge : cause.edge? l.phase l'.phase = none)
    (hcounters : l'.counters.reconnects = l.counters.reconnects)
    (hphase : l'.phase = .connected → l.phase = .connected) : l.Passage cause none l' where
  due_eq := hedge.symm
  reconnects := hcounters
  entered hconnected _ := hphase hconnected

theorem Passage.kept (hcounters : l'.counters.reconnects = l.counters.reconnects)
    (hphase : l'.phase = l.phase) : l.Passage cause none l' := by
  refine .level ?_ hcounters (hphase ▸ ·)
  rw [hphase]
  cases cause with
  | call => rfl
  | poll health => exact if_neg fun h => h.2.1 h.1
  | attempt origin => exact if_neg fun h => h.1 h.2

theorem Directed.passage [Sub τ] [Mul τ] [LE τ] [LT τ] [DecidableLT τ] {now : τ} {wish : Bool}
    {target : Target} {calls : List Call} (h : l.Directed now wish target calls l') :
    l.Passage .call none l' := by
  cases h with
  | off _ _ _ => exact .level rfl rfl nofun
  | on _ _ _ => exact .level rfl rfl nofun
  | stay _ _ => exact .kept rfl rfl

section
variable [Sub τ] [LE τ] [DecidableLE τ]

theorem Sound.passage_advance (h : l.Sound inFlight) (now : τ) (health : Option Bool) :
    l.Passage (.poll health) (l.advance now (health.getD true)).2.2.edge?
      (l.advance now (health.getD true)).1 := by
  rcases h.advance_cases now (health.getD true) with
    ⟨heq, _⟩ | ⟨hphase, heq⟩ | ⟨_, heq⟩ | ⟨_, _, _, heq⟩ | ⟨hphase, _, hdead, heq⟩
  · rw [heq]
    exact .kept rfl rfl
  · rw [heq]
    exact .level (if_neg fun hlost => nomatch hphase ▸ hlost.1) rfl nofun
  · rw [heq]
    exact .kept rfl rfl
  · rw [heq]
    exact .kept rfl rfl
  · have hfailed : health = some false := by
      cases health with
      | none => cases hdead
      | some alive => exact congrArg some hdead
    rw [heq]
    exact ⟨(if_pos ⟨hphase, nofun, hfailed⟩).symm, rfl, nofun⟩

variable [Zero τ] [LT τ] [DecidableLT τ]

theorem Sound.passage_poll (h : l.Sound inFlight) (now : τ) (health : Option Bool) :
    l.Passage (.poll health) (l.poll now (health.getD true)).2.2.edge?
      (l.poll now (health.getD true)).1 := by
  cases hidle : l.attempting with
  | true =>
      rw [poll_of_attempting hidle]
      exact .kept rfl rfl
  | false =>
      obtain ⟨status, reports, hpoll⟩ := poll_of_idle hidle now (health.getD true)
      obtain ⟨hdue, hreconnects, hentered⟩ := h.passage_advance now health
      rw [hpoll]
      exact ⟨hdue, hreconnects, hentered⟩

end

section
variable [Mul τ] [LT τ] [DecidableLT τ]

theorem Sound.passage_settle {a : Attempt} (h : l.Sound (a :: inFlight)) (now : τ) (id : Nat)
    (up : Bool) :
    l.Passage (.attempt a.origin) (l.settle now a id up).2.2 (l.settle now a id up).1 := by
  have hbound := h.bound a List.mem_cons_self
  by_cases hcurrent : a.generation = l.generation
  · have hphase : l.phase ≠ .connected := by
      rw [(hbound.unmoved hcurrent).1]
      rcases hbound.origin with horigin | horigin <;> simp [horigin]
    cases up with
    | true =>
        obtain ⟨reports, heq⟩ := settle_up hcurrent now id
        rw [heq]
        rcases hbound.origin with horigin | horigin <;>
          exact ⟨by simp [Cause.edge?, risen, hphase, horigin], by simp [risen, horigin], nofun⟩
    | false =>
        obtain ⟨reports, heq⟩ := settle_down hcurrent now id
        rw [heq]
        exact .level (by simp [Cause.edge?, fallen]) rfl (by simp [fallen])
  · rw [settle_of_ne hcurrent]
    exact .kept rfl rfl

end

theorem passage_accept (l : Link τ) (line : Option (List UInt8)) :
    l.Passage .call none (l.accept line).2.1 := by
  unfold accept
  split
  · exact .kept rfl rfl
  · split <;> exact .kept rfl rfl

/-- The trace so far, for a link and the edge that is still to be told. -/
structure Reckoned (l : Link τ) (due : Option Edge) (log : List Event) : Prop where
  prompt_eq : log = prompt (tidings log) ++ due.toList.map .crossed
  reconnects : (crossings log).count .reconnected = l.counters.reconnects
  standing : l.phase = .connected →
    ∃ earlier e, crossings log = earlier ++ [e] ∧ e ≠ .disconnected
  alternating : Alternating (crossings log)

namespace Reckoned

variable {log : List Event}

theorem crossings_eq (h : Reckoned l due log) : crossings log = tidings log ++ due.toList := by
  have hcrossed := congrArg crossings h.prompt_eq
  rwa [crossings_append, crossings_prompt, crossings_crossed] at hcrossed

/-- A hold of the lock that crosses an edge leaves it to be told. -/
theorem passage (h : Reckoned l none log) (hpassage : l.Passage cause due l') :
    Reckoned l' due (log ++ (cause.edge? l.phase l'.phase).toList.map .crossed) := by
  rw [← hpassage.due_eq]
  have hlog : log = prompt (tidings log) := by simpa using h.prompt_eq
  refine ⟨?_, ?_, ?_, ?_⟩
  · rw [tidings_append, tidings_crossed, List.append_nil, ← hlog]
  · rw [crossings_append, crossings_crossed, List.count_append, h.reconnects, hpassage.reconnects]
    cases due with
    | none => rfl
    | some e => cases e <;> rfl
  · intro hconnected
    rw [crossings_append, crossings_crossed]
    cases due with
    | none =>
        rw [Option.toList_none, List.append_nil]
        exact h.standing (hpassage.entered hconnected rfl)
    | some e =>
        refine ⟨crossings log, e, rfl, ?_⟩
        rintro rfl
        exact (Cause.edge?_disconnected hpassage.due_eq.symm).2 hconnected
  · rw [crossings_append, crossings_crossed]
    cases due with
    | none => simpa using h.alternating
    | some e =>
        refine h.alternating.concat ?_
        rintro rfl
        exact h.standing (Cause.edge?_disconnected hpassage.due_eq.symm).1

/-- Telling the edge that was to be told settles the account. -/
theorem told {e : Edge} (h : Reckoned l (some e) log) : Reckoned l none (log ++ [.told e]) := by
  have hcrossings : crossings (log ++ [.told e]) = crossings log := by
    rw [crossings_append]
    exact List.append_nil _
  have htidings : tidings (log ++ [.told e]) = tidings log ++ [e] := tidings_append _ _
  refine ⟨?_, ?_, ?_, ?_⟩
  · rw [htidings, prompt_concat]
    conv_lhs => rw [h.prompt_eq]
    simp
  · rw [hcrossings]
    exact h.reconnects
  · rw [hcrossings]
    exact h.standing
  · rw [hcrossings]
    exact h.alternating

end Reckoned

end Link

namespace Rig

variable {σ τ : Type}

def sink? (r : Rig σ τ) (k : Nat) : Option Sink := r.stations[k]?.map Station.sink

@[simp] theorem sink?_setLink (r : Rig σ τ) (k : Nat) (l : Link τ) :
    (r.setLink k l).sink? k = r.sink? k := by
  simp only [sink?, setLink, Array.getElem?_modify, ↓reduceIte, Option.map_map]
  rfl

theorem sink?_of_stations {r r' : Rig σ τ} (h : r'.stations = r.stations) (k : Nat) :
    r'.sink? k = r.sink? k := by
  rw [sink?, sink?, h]

theorem stations_deliver (r : Rig σ τ) (sink : Sink) (n : Notification) :
    (r.deliver sink n id).2.stations = r.stations := by
  cases sink with
  | backend url client =>
      simp only [deliver]
      split
      · split <;> rfl
      · rfl
  | _ => rfl

variable [Carrier σ τ]

theorem sink?_change {r : Rig σ τ} {k : Nat} {l : Link τ} (h : r.link? k = some l)
    (operation : Link τ → Link τ × List (LinkAction τ)) :
    (r.change k operation).sink? k = r.sink? k := by
  rw [change_eq h, sink?_of_stations (stations_perform _ _), sink?_setLink]

/-- An operation on the link, as far as its edges go. -/
theorem passage_change {r : Rig σ τ} {k : Nat} {l : Link τ} {cause : Cause} {due : Option Edge}
    (hl : r.link? k = some l)
    (operation : Link τ → Link τ × List (LinkAction τ)) (h : l.Passage cause due (operation l).1) :
    ∃ l', (r.change k operation).link? k = some l' ∧
      (r.change k operation).sink? k = r.sink? k ∧ l.Passage cause due l' :=
  ⟨_, link?_change hl operation, sink?_change hl operation, h⟩

variable [Sub τ] [LE τ] [DecidableLE τ]

/-- The health of the peer, if the next poll of a link is to check it. -/
def health? (r : Rig σ τ) (k : Nat) : Option Bool :=
  (r.link? k).bind fun l => (l.probe? r.now).map fun id => (r.via fun o => Carrier.probe o id).1

variable [Zero τ] [LT τ] [DecidableLT τ]

/-- The first part of an update polls the link with the health that it finds. -/
theorem look_health {r : Rig σ τ} {k : Nat} {l : Link τ} (hl : r.link? k = some l) :
    ∃ r₀ : Rig σ τ, r₀.stations = r.stations ∧
      r.look k = ((l.poll r.now ((r.health? k).getD true)).2.2,
        (r₀.setLink k (l.poll r.now ((r.health? k).getD true)).1).perform
          (l.poll r.now ((r.health? k).getD true)).2.1) := by
  have hhealth : r.health? k =
      (l.probe? r.now).map fun id => (r.via fun o => Carrier.probe o id).1 := by rw [health?, hl]; rfl
  rw [hhealth]
  simp only [Rig.look, hl]
  cases l.probe? r.now with
  | none => exact ⟨r, rfl, rfl⟩
  | some id => exact ⟨_, stations_via r fun o => Carrier.probe o id, rfl⟩

variable [Mul τ]

/-- One hold of the lock of link `k`: what caused it, the edge that it leaves to be told, and the attempts
in flight before and after it. -/
inductive Turn (k : Nat) (r : Rig σ τ) :
    List Attempt → Cause → Option Edge → Rig σ τ → List Attempt → Prop
  | setEnabled (inFlight : List Attempt) (on : Bool) :
      Turn k r inFlight .call none (r.setEnabled k on) inFlight
  | configure (inFlight : List Attempt) (host : String) (port : Int) :
      Turn k r inFlight .call none (r.configure k (.of host port)) inFlight
  | shutDown (inFlight : List Attempt) : Turn k r inFlight .call none (r.shutDownLink k) inFlight
  | look (inFlight : List Attempt) :
      Turn k r inFlight (.poll (r.health? k)) (r.look k).1.edge? (r.look k).2
        ((r.look k).1.claimed ++ inFlight)
  | conclude (a : Attempt) (inFlight : List Attempt) (id : Nat) (up : Bool) :
      Turn k r (a :: inFlight) (.attempt a.origin) (r.conclude k a id up).1
        (r.conclude k a id up).2 inFlight
  | abort (a : Attempt) (inFlight : List Attempt) :
      Turn k r (a :: inFlight) (.attempt a.origin) none (r.abort k) inFlight
  | sent (inFlight : List Attempt) (m : Message) (delivered : Bool) :
      Turn k r inFlight .call none (r.change k (·.sent m delivered)) inFlight
  | countSent (inFlight : List Attempt) :
      Turn k r inFlight .call none (r.change k fun l => (l.countSent, [])) inFlight
  | countFailed (inFlight : List Attempt) :
      Turn k r inFlight .call none (r.change k fun l => (l.countFailed, [])) inFlight
  | accept (inFlight : List Attempt) (line : Option (List UInt8)) :
      Turn k r inFlight .call none (r.accept k line).2 inFlight

namespace Turn

variable {k : Nat} {r r' : Rig σ τ} {l : Link τ} {inFlight inFlight' : List Attempt} {cause : Cause}
  {due : Option Edge}

/-- A hold of the lock leads from moment to moment. -/
theorem moment (h : Turn k r inFlight cause due r' inFlight') (hr : Moment k r inFlight) :
    Moment k r' inFlight' := by
  cases h with
  | setEnabled _ on => exact hr.setEnabled on
  | configure _ host port => exact hr.configure host port
  | shutDown _ => exact hr.shutDown
  | look _ => exact hr.look
  | conclude a _ id up =>
      have hsplit : Moment k r ([] ++ a :: inFlight') := hr
      exact hsplit.conclude id up
  | abort a _ =>
      have hsplit : Moment k r ([] ++ a :: inFlight') := hr
      exact hsplit.abort
  | sent _ m delivered => exact hr.sent m delivered
  | countSent _ => exact hr.countSent
  | countFailed _ => exact hr.countFailed
  | accept _ line => exact hr.accept line

/-- A hold of the lock leaves to be told exactly the edge that it has crossed. -/
theorem passage (h : Turn k r inFlight cause due r' inFlight') (hr : Moment k r inFlight)
    (hl : r.link? k = some l) :
    ∃ l', r'.link? k = some l' ∧ r'.sink? k = r.sink? k ∧ l.Passage cause due l' := by
  have hsound := hr.sound_of_link hl
  cases h with
  | setEnabled _ on =>
      exact passage_change hl (·.setEnabled r.now on) (hsound.directed_setEnabled r.now on).passage
  | configure _ host port =>
      exact passage_change hl (·.configure r.now (.of host port))
        (hsound.directed_configure r.now host port).passage
  | shutDown _ =>
      exact passage_change hl (·.shutDown r.now) (hsound.directed_setEnabled r.now false).passage
  | look _ =>
      obtain ⟨r₀, hstations, hlook⟩ := look_health hl
      rw [hlook]
      refine ⟨_, (link?_perform _ _ _).trans (link?_setLink ((link?_of_stations hstations k).trans hl) _),
        ?_, hsound.passage_poll r.now _⟩
      rw [sink?_of_stations (stations_perform _ _), sink?_setLink, sink?_of_stations hstations]
  | conclude a _ id up =>
      refine ⟨_, link?_conclude hl a id up, ?_, ?_⟩
      · rw [conclude_eq hl, sink?_of_stations (stations_perform _ _), sink?_setLink]
      · rw [conclude_eq hl]
        exact hsound.passage_settle r.now id up
  | abort _ _ => exact passage_change hl (fun l => (l.abort, [])) (.kept rfl rfl)
  | sent _ m delivered =>
      refine passage_change hl (·.sent m delivered) ?_
      cases delivered <;> exact .kept rfl rfl
  | countSent _ => exact passage_change hl (fun l => (l.countSent, [])) (.kept rfl rfl)
  | countFailed _ => exact passage_change hl (fun l => (l.countFailed, [])) (.kept rfl rfl)
  | accept _ line =>
      refine ⟨_, link?_accept hl line, ?_, l.passage_accept line⟩
      rw [Rig.accept, hl]
      exact (sink?_of_stations (stations_perform _ _) k).trans (sink?_setLink _ _ _)

/-- Nothing is handed to a sink while the lock is held. -/
theorem handed_eq (h : Turn k r inFlight cause due r' inFlight') (sink : Sink) : r'.handed sink = r.handed sink := by
  cases h with
  | look _ =>
      unfold Rig.look
      split
      · rfl
      · dsimp only
        split
        · exact (handed_perform _ _ sink).trans (r.handed_via (fun o => Carrier.probe o _) sink)
        · exact handed_perform _ _ sink
  | conclude a _ id up =>
      unfold Rig.conclude
      split
      · rfl
      · exact handed_perform _ _ sink
  | accept _ line =>
      unfold Rig.accept
      split
      · rfl
      · exact handed_perform _ _ sink
  | _ => exact r.handed_change k _ sink

end Turn

/-- A run of link `k`, which was added to a rig `start` with the sink `sink`: the attempts in flight, the edge
that is still to be told and the trace.  An edge is told before the lock is taken again, and the calls that
come out of the sink come after that. -/
inductive Chronicle (k : Nat) (sink : Sink) (start : Rig σ τ) :
    Rig σ τ → List Attempt → Option Edge → List Event → Prop
  | made (options : LinkOptions τ) (host : String) (port : Int) (hk : start.stations.size = k) :
      Chronicle k sink start (start.addLink options (.of host port) sink).2 [] none []
  /-- Something happens around the link, with nothing entered into the journal: time passes, the peer
  dies, the sink begins to raise. -/
  | around {r r' : Rig σ τ} {inFlight : List Attempt} {due : Option Edge} {log : List Event}
      (h : Chronicle k sink start r inFlight due log) (hstation : r'.stations[k]? = r.stations[k]?)
      (hjournal : r'.journal = r.journal) : Chronicle k sink start r' inFlight due log
  | via {r : Rig σ τ} {inFlight : List Attempt} {due : Option Edge} {log : List Event} {α : Type}
      (h : Chronicle k sink start r inFlight due log) (call : σ → α × σ) :
      Chronicle k sink start (r.via call).2 inFlight due log
  | report {r : Rig σ τ} {inFlight : List Attempt} {due : Option Edge} {log : List Event}
      (h : Chronicle k sink start r inFlight due log) (n : LinkNotice τ) :
      Chronicle k sink start (r.report (.link n)) inFlight due log
  | turn {r r' : Rig σ τ} {l l' : Link τ} {inFlight inFlight' : List Attempt} {cause : Cause}
      {due : Option Edge} {log : List Event} (h : Chronicle k sink start r inFlight none log)
      (hturn : Turn k r inFlight cause due r' inFlight') (hl : r.link? k = some l)
      (hl' : r'.link? k = some l') :
      Chronicle k sink start r' inFlight' due (log ++ (cause.edge? l.phase l'.phase).toList.map .crossed)
  | told {r : Rig σ τ} {inFlight : List Attempt} {e : Edge} {log : List Event}
      (h : Chronicle k sink start r inFlight (some e) log) :
      Chronicle k sink start (r.deliver sink e.notification id).2 inFlight none (log ++ [.told e])
  | raised {r : Rig σ τ} {inFlight : List Attempt} {due : Option Edge} {log : List Event}
      (h : Chronicle k sink start r inFlight due log) (fault : Fault) :
      Chronicle k sink start (r.report (.sink (.sinkFailed fault.text))) inFlight due log

namespace Chronicle

variable {k : Nat} {sink : Sink} {start r r' : Rig σ τ} {l : Link τ} {inFlight inFlight' : List Attempt}
  {due : Option Edge} {log : List Event}

theorem moment (h : Chronicle k sink start r inFlight due log) : Moment k r inFlight := by
  induction h with
  | made options host port hk => exact .made start options host port sink hk
  | around _ hstation _ ih => exact ih.elsewhere (congrArg (·.map Station.link) hstation)
  | via _ call ih => exact ih.via call
  | report _ n ih => exact ih.report (.link n)
  | turn _ hturn _ _ ih => exact hturn.moment ih
  | @told r _ e _ _ ih => exact ih.of_stations (stations_deliver r sink e.notification)
  | raised _ fault ih => exact ih.report _

/-- The link keeps the sink that it was made with. -/
theorem sink?_eq (h : Chronicle k sink start r inFlight due log) : r.sink? k = some sink := by
  induction h with
  | made options host port hk =>
      subst hk
      simp [sink?, addLink]
  | around _ hstation _ ih => exact (congrArg (·.map Station.sink) hstation).trans ih
  | via _ call ih => exact (sink?_of_stations (stations_via _ call) k).trans ih
  | report _ n ih => exact ih
  | turn h hturn hl _ ih =>
      obtain ⟨_, _, hsink, _⟩ := hturn.passage h.moment hl
      exact hsink.trans ih
  | @told r _ e _ _ ih => exact (sink?_of_stations (stations_deliver r sink e.notification) k).trans ih
  | raised _ fault ih => exact ih

/-- What the sink has been handed are the notifications of the edges that it has been told. -/
theorem handed_eq (h : Chronicle k sink start r inFlight due log) (hsink : sink ≠ .bare) :
    r.handed sink = start.handed sink ++ (tidings log).map Edge.notification := by
  induction h with
  | made options host port hk =>
      exact (handed_report_link _ sink _).trans (List.append_nil _).symm
  | around _ _ hjournal ih =>
      rw [handed, hjournal]
      exact ih
  | via _ call ih => exact (handed_via _ call sink).trans ih
  | report _ n ih => exact (handed_report_link _ sink n).trans ih
  | turn _ hturn _ _ ih =>
      rw [hturn.handed_eq sink, tidings_append, tidings_crossed, List.append_nil]
      exact ih
  | told _ ih =>
      rw [handed_deliver _ hsink, ih, tidings_append, List.map_append, List.append_assoc]
      rfl
  | raised _ fault ih => exact (handed_sinkFailed _ sink fault.text).trans ih

/-- The account of the trace, by induction on the run. -/
theorem reckoning (h : Chronicle k sink start r inFlight due log) (hl : r.link? k = some l) :
    l.Reckoned due log := by
  induction h generalizing l with
  | made options host port hk =>
      subst hk
      rw [link?_addLink] at hl
      cases hl
      exact ⟨rfl, rfl, nofun, by simp [Alternating, crossings]⟩
  | around _ hstation _ ih => exact ih ((congrArg (·.map Station.link) hstation).symm.trans hl)
  | via _ call ih => exact ih hl
  | report _ n ih => exact ih hl
  | turn h hturn hl₀ hl' ih =>
      obtain ⟨l', hnext, _, hpassage⟩ := hturn.passage h.moment hl₀
      obtain rfl := Option.some.inj (hnext.symm.trans hl')
      obtain rfl := Option.some.inj (hl'.symm.trans hl)
      exact (ih hl₀).passage hpassage
  | @told r _ e _ _ ih =>
      rw [link?_of_stations (stations_deliver r sink e.notification)] at hl
      exact (ih hl).told
  | raised _ fault ih => exact ih hl

end Chronicle

/-- The run has gone on from a trace, and nothing is left to be told. -/
def Continued (k : Nat) (sink : Sink) (start : Rig σ τ) (inFlight : List Attempt) (log : List Event)
    (r : Rig σ τ) : Prop :=
  ∃ more, Chronicle k sink start r inFlight none (log ++ more)

/-- A call leads a run on, whatever has happened before. -/
def Leads (k : Nat) (sink : Sink) (start : Rig σ τ) (inFlight : List Attempt) (call : Rig σ τ → Rig σ τ) : Prop :=
  ∀ r log, Chronicle k sink start r inFlight none log → Continued k sink start inFlight log (call r)

namespace Continued

variable {k : Nat} {sink : Sink} {start r r' : Rig σ τ} {inFlight inFlight' : List Attempt}
  {log : List Event}

theorem here (h : Chronicle k sink start r inFlight none log) : Continued k sink start inFlight log r := by
  refine ⟨[], ?_⟩
  rw [List.append_nil]
  exact h

theorem of_append {more : List Event} (h : Continued k sink start inFlight (log ++ more) r) :
    Continued k sink start inFlight log r := by
  obtain ⟨further, h⟩ := h
  rw [List.append_assoc] at h
  exact ⟨more ++ further, h⟩

theorem via {α : Type} (h : Continued k sink start inFlight log r) (call : σ → α × σ) :
    Continued k sink start inFlight log (r.via call).2 := by
  obtain ⟨more, h⟩ := h
  exact ⟨more, h.via call⟩

theorem lead {call : Rig σ τ → Rig σ τ} (h : Continued k sink start inFlight log r)
    (hcall : Leads k sink start inFlight call) : Continued k sink start inFlight log (call r) := by
  obtain ⟨more, h⟩ := h
  exact of_append (hcall r _ h)

/-- The lock is held once, with whatever edge that crosses still to be told. -/
theorem turn {cause : Cause} {due : Option Edge} (h : Continued k sink start inFlight log r)
    (hturn : Turn k r inFlight cause due r' inFlight') :
    ∃ more, Chronicle k sink start r' inFlight' due (log ++ more) := by
  obtain ⟨more, h⟩ := h
  obtain ⟨l, hl, _⟩ := h.moment.sound
  obtain ⟨l', hl', _⟩ := hturn.passage h.moment hl
  have hturned := h.turn hturn hl hl'
  rw [List.append_assoc] at hturned
  exact ⟨_, hturned⟩

/-- Sending, receiving and requests lead a run on. -/
theorem messaging : Messaging k (Continued (τ := τ) (σ := σ) k sink start inFlight log) where
  report n h := by
    obtain ⟨more, h⟩ := h
    exact ⟨more, h.report n⟩
  sending _ _ h := h.via _
  receiving _ h := h.via _
  exchanging _ _ h := h.via _
  sent m delivered h := h.turn (.sent _ m delivered)
  countSent h := h.turn (.countSent _)
  countFailed h := h.turn (.countFailed _)
  accept line h := h.turn (.accept _ line)

end Continued

namespace Leads

variable {k : Nat} {sink : Sink} {start : Rig σ τ} {inFlight : List Attempt}

/-- A call that holds the lock once and crosses no edge. -/
theorem turn {call : Rig σ τ → Rig σ τ}
    (hcall : ∀ r, Turn k r inFlight .call none (call r) inFlight) : Leads k sink start inFlight call := by
  intro r log h
  exact (Continued.here h).turn (hcall r)

theorem messaging {call : Rig σ τ → Rig σ τ}
    (hcall : ∀ {P : Rig σ τ → Prop}, Messaging k P → ∀ {r}, P r → P (call r)) :
    Leads k sink start inFlight call := by
  intro r log h
  exact hcall Continued.messaging (.here h)

end Leads

namespace Chronicle

variable {k : Nat} {sink : Sink} {start r : Rig σ τ} {inFlight : List Attempt} {log : List Event}
  {window reaction : Rig σ τ → Rig σ τ}

/-- The sink is told first; the calls that come out of it and the report of its failure come after. -/
theorem deliver {e : Edge} (h : Chronicle k sink start r inFlight (some e) log)
    (hreaction : Leads k sink start inFlight reaction) :
    Continued k sink start inFlight (log ++ [.told e]) (r.deliver sink e.notification reaction).2 := by
  have htold : Continued k sink start inFlight (log ++ [.told e]) (r.deliver sink e.notification id).2 :=
    .here h.told
  cases sink with
  | callback => exact htold.lead hreaction
  | _ => exact htold

theorem tell {e : Edge} (h : Chronicle k sink start r inFlight (some e) log)
    (hreaction : Leads k sink start inFlight reaction) :
    Continued k sink start inFlight log (r.tell sink e reaction) := by
  have hdelivered := (h.deliver hreaction).of_append
  unfold Rig.tell
  split
  · rename_i heq
    rw [heq] at hdelivered
    exact hdelivered
  · rename_i fault _ heq
    rw [heq] at hdelivered
    obtain ⟨more, hraised⟩ := hdelivered
    exact ⟨more, hraised.raised fault⟩

end Chronicle

section
variable {k : Nat} {sink : Sink} {start r : Rig σ τ} {inFlight : List Attempt} {log : List Event}
  {window reaction : Rig σ τ → Rig σ τ}

/-- An attempt from its claim on: calls may come in while it connects; its edge is told at once, and
the sink may call in turn. -/
theorem Continued.attempt {a : Attempt} (h : Continued k sink start (a :: inFlight) log r)
    (limits : TransportLimits τ) (hwindow : Leads k sink start (a :: inFlight) window)
    (hreaction : Leads k sink start inFlight reaction) :
    Continued k sink start inFlight log (r.attempt k limits sink a window reaction).2 := by
  have hbuilt := h.via fun o => Carrier.build o limits a.target
  unfold Rig.attempt
  split
  · rename_i heq
    rw [heq] at hbuilt
    exact hbuilt.turn (.abort a inFlight)
  · rename_i id _ heq
    rw [heq] at hbuilt
    have hentered := (hbuilt.via fun o => ((), Carrier.approach o id)).lead hwindow
    have hopened := hentered.via fun o => Carrier.connect o id
    dsimp only
    split
    · rename_i heq
      rw [heq] at hopened
      exact hopened.turn (.abort a inFlight)
    · rename_i up _ heq
      rw [heq] at hopened
      obtain ⟨more, hconcluded⟩ := hopened.turn (.conclude a inFlight id up)
      split
      · rename_i heq
        rw [heq] at hconcluded
        exact (hconcluded.tell hreaction).of_append
      · rename_i heq
        rw [heq] at hconcluded
        exact ⟨more, hconcluded⟩

/-- A whole update leads a run on, as long as the calls inside it do. -/
theorem Leads.update (hwindow : ∀ a, Leads k sink start (a :: inFlight) window)
    (hreaction : Leads k sink start inFlight reaction) :
    Leads k sink start inFlight fun r => (r.update k window reaction).2 := by
  intro r log h
  have hhere := Continued.here h
  obtain ⟨more, hlooked⟩ := hhere.turn (.look inFlight)
  have hsink := h.sink?_eq
  change Continued k sink start inFlight log (r.update k window reaction).2
  unfold Rig.update
  split
  · exact hhere
  · rename_i s hs
    obtain rfl : s.sink = sink := by simpa [sink?, hs] using hsink
    split
    · rename_i heq
      rw [heq] at hlooked
      exact ⟨more, hlooked⟩
    · rename_i e _ heq
      rw [heq] at hlooked
      exact (hlooked.tell hreaction).of_append
    · rename_i a _ heq
      rw [heq] at hlooked
      have hclaimed : Continued k s.sink start (a :: inFlight) log _ := ⟨more, hlooked⟩
      exact hclaimed.attempt s.limits (hwindow a) hreaction

end

/-- Calls on link `k`, in any order and with anything else that happens around them; while an update
connects and out of the sink, calls come in again.  What comes next may depend on how things stand. -/
inductive Mix (k : Nat) : (Rig σ τ → Rig σ τ) → Prop
  | around (f : Rig σ τ → Rig σ τ) (hstation : ∀ r, (f r).stations[k]? = r.stations[k]?)
      (hjournal : ∀ r, (f r).journal = r.journal) : Mix k f
  | setEnabled (on : Bool) : Mix k (·.setEnabled k on)
  | configure (host : String) (port : Int) : Mix k (·.configure k (.of host port))
  | shutDown : Mix k (·.shutDownLink k)
  | send (m : Message) : Mix k fun r => (r.send k m).2
  | receive : Mix k fun r => (r.receive k).2
  | request (m : Message) : Mix k fun r => (r.request k m).2
  | update {window reaction : Rig σ τ → Rig σ τ} (hwindow : Mix k window) (hreaction : Mix k reaction) :
      Mix k fun r => (r.update k window reaction).2
  | andThen {first second : Rig σ τ → Rig σ τ} (hfirst : Mix k first) (hsecond : Mix k second) :
      Mix k (second ∘ first)
  | choose {ι : Type} (choice : Rig σ τ → ι) (f : ι → Rig σ τ → Rig σ τ) (h : ∀ i, Mix k (f i)) :
      Mix k fun r => f (choice r) r

/-- Any mix of calls leads a run on. -/
theorem Mix.leads {k : Nat} {f : Rig σ τ → Rig σ τ} (h : Mix k f) (sink : Sink) (start : Rig σ τ)
    (inFlight : List Attempt) : Leads k sink start inFlight f := by
  induction h generalizing inFlight with
  | around f hstation hjournal =>
      intro r log h
      exact .here (h.around (hstation r) (hjournal r))
  | setEnabled on => exact .turn fun r => .setEnabled inFlight on
  | configure host port => exact .turn fun r => .configure inFlight host port
  | shutDown => exact .turn fun r => .shutDown inFlight
  | send m => exact .messaging fun hparts _ hr => hparts.send hr m
  | receive => exact .messaging fun hparts _ hr => hparts.receive hr
  | request m => exact .messaging fun hparts _ hr => hparts.request hr m
  | update _ _ hwindow hreaction => exact .update (fun a => hwindow (a :: inFlight)) (hreaction inFlight)
  | andThen _ _ hfirst hsecond =>
      intro r log h
      exact (hfirst inFlight r log h).lead (hsecond inFlight)
  | choose choice f _ ih =>
      intro r log h
      exact ih (choice r) inFlight r log h

namespace Chronicle

variable {k : Nat} {sink : Sink} {start r : Rig σ τ} {l : Link τ} {inFlight : List Attempt}
  {due : Option Edge} {log : List Event}

/-- The law of the trace.  Each hold of the lock leaves to be told exactly the edge that it has crossed,
and entering the connected phase is always an edge.  So what has been told is what has been crossed, in
order and each edge before the next is crossed; a loss of the connection comes right after an edge that
made it; and as many reconnections are crossed as the link has counted.  What has come into the journal for
the sink are the notifications of what has been told, and no others.  Any mix of calls leads the run on, with
nothing left to be told at its end. -/
theorem tidings_eq_crossings (h : Chronicle k sink start r inFlight due log) (hl : r.link? k = some l) :
    (∀ cause edge r' inFlight', Turn k r inFlight cause edge r' inFlight' →
      ∃ l', r'.link? k = some l' ∧ edge = cause.edge? l.phase l'.phase ∧
        (l.phase ≠ .connected → l'.phase = .connected →
          edge = some .connected ∨ edge = some .reconnected)) ∧
      log = prompt (tidings log) ++ due.toList.map .crossed ∧
      tidings log ++ due.toList = crossings log ∧
      (∀ before after, tidings log = before ++ .disconnected :: after →
        ∃ earlier e, before = earlier ++ [e] ∧ (e = .connected ∨ e = .reconnected)) ∧
      (crossings log).count .reconnected = l.counters.reconnects ∧
      (sink ≠ .bare → r.journal.toList.filterMap sink.handed? =
        start.journal.toList.filterMap sink.handed? ++ (tidings log).map Edge.notification) ∧
      (due = none → ∀ calls, Mix k calls →
        ∃ more, Chronicle k sink start (calls r) inFlight none (log ++ more)) := by
  have hreckoned := h.reckoning hl
  have hmade {e : Edge} (he : e ≠ .disconnected) : e = .connected ∨ e = .reconnected := by
    cases e <;> simp at he ⊢
  refine ⟨?_, hreckoned.prompt_eq, hreckoned.crossings_eq.symm, ?_, hreckoned.reconnects, h.handed_eq, ?_⟩
  · intro cause edge r' inFlight' hturn
    obtain ⟨l', hl', _, hpassage⟩ := hturn.passage h.moment hl
    refine ⟨l', hl', hpassage.due_eq, ?_⟩
    intro hout hin
    cases edge with
    | none => exact absurd (hpassage.entered hin rfl) hout
    | some e =>
        have hne : e ≠ .disconnected := by
          rintro rfl
          exact hout (Cause.edge?_disconnected hpassage.due_eq.symm).1
        rcases hmade hne with rfl | rfl <;> simp
  · intro before after hsplit
    have halternating := hreckoned.alternating
    rw [hreckoned.crossings_eq] at halternating
    obtain ⟨earlier, e, hbefore, hne⟩ := halternating.of_append before after hsplit
    exact ⟨earlier, e, hbefore, hmade hne⟩
  · rintro rfl calls hcalls
    exact hcalls.leads sink start inFlight r log h

/-- A callback that raises, out of which the link is updated once the peer has died: the loss is told
within the call that told the connection, after it. -/
theorem tidings_eq_crossings_called_back :
    ∃ (start r : Rig (Scripted Int) Int) (l : Link Int),
      Chronicle 0 .callback start r [] none
        [.crossed .connected, .told .connected, .crossed .disconnected, .told .disconnected] ∧
      r.link? 0 = some l ∧ l.counters.reconnects = 0 ∧
      r.journal.toList.filterMap (Sink.handed? .callback) =
        [Edge.notification .connected, Edge.notification .disconnected] ∧
      ∃ more, Chronicle 0 .callback start (r.update 0 id id).2 [] none
        ([.crossed .connected, .told .connected, .crossed .disconnected, .told .disconnected] ++ more) := by
  have hmade : Chronicle 0 .callback
      ({ outside := { clock := 0 }, callbackFault := some "out of order" } : Rig (Scripted Int) Int)
      _ [] none [] := .made
    ⟨⟨3, 1, defaultLineLimit⟩, {}, 5, 0, .start 1 2 30⟩ "10.0.0.2" 7000 rfl
  have hready := (hmade.turn (.setEnabled [] true) rfl rfl).turn (.look []) rfl rfl
  have hclaimed := hready.turn (.look []) rfl rfl
  have hopened := (hclaimed.via fun o => Carrier.build o ⟨3, 1, defaultLineLimit⟩ (.of "10.0.0.2" 7000)).via
    fun o => Carrier.connect o 0
  have htold := (hopened.turn (.conclude _ [] 0 true) rfl rfl).told
  have hdead := htold.via fun o => ((), { o with clock := 5, alive := false })
  have hlost := (hdead.turn (.look []) rfl rfl).told
  have hended := (hlost.raised (.breakdown "out of order")).raised (.breakdown "out of order")
  obtain ⟨-, -, -, -, hcount, hhanded, hmix⟩ := hended.tidings_eq_crossings rfl
  have hgiven := (hhanded nofun).trans (show _ = [Edge.notification .connected, Edge.notification .disconnected]
    from rfl)
  have hquiet : Mix 0 (id : Rig (Scripted Int) Int → Rig (Scripted Int) Int) :=
    .around id (fun _ => rfl) (fun _ => rfl)
  exact ⟨_, _, _, hended, rfl, hcount.symm, hgiven, hmix rfl _ (.update hquiet hquiet)⟩

end Chronicle

end Rig

end PeripheralLink

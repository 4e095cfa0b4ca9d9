import Mathlib.Data.List.Infix
import PeripheralLink.Proofs.Loop.StartUp
import PeripheralLink.Proofs.Rig.Openings
/-!
What the driving loop gives back.  `Rig.Held` is what the bridge has from its opening on: its own sink, and a link
that has a transport only while it is not disabled.  Updates, pauses and signals keep it, whatever they come to, so
that the bridge can be shut down from wherever the loop is left: `Rig.Held.shutDownBridge`.

How the loop is left is said apart from how it runs: `Driving.Reaches` and `Driving.Raises`.  The main statement is
`Rig.launch_releases`.
-/

namespace PeripheralLink

/-- Disabled, a link has no transport. -/
def Link.Bare {τ : Type} (l : Link τ) : Prop := l.phase = .disabled → l.transport = none

namespace Link

variable {τ : Type} {l : Link τ}

theorem bare_enter (l : Link τ) (now : τ) {next : Phase} (hnext : next ≠ .disabled) : (l.enter now next).1.Bare :=
  fun hphase => absurd hphase hnext

theorem bare_leave (l : Link τ) (now : τ) (next : Phase) : (l.leave now next).1.Bare := fun _ => rfl

theorem Bare.setEnabled (h : l.Bare) (now : τ) (on : Bool) : (l.setEnabled now on).1.Bare := by
  unfold Link.setEnabled
  dsimp only
  split
  · split
    · split
      · exact bare_enter _ now (by decide)
      · exact h
    · exact h
  · split
    · exact h
    · exact bare_leave _ now _

/-- A link that is turned off for good is disabled and has no transport. -/
theorem Bare.shutDown (h : l.Bare) (now : τ) :
    (l.shutDown now).1.phase = .disabled ∧ (l.shutDown now).1.transport = none := by
  have hphase : (l.shutDown now).1.phase = .disabled := by
    simp only [Link.shutDown, Link.setEnabled, Bool.false_eq_true, if_false]
    split
    · assumption
    · rfl
  exact ⟨hphase, h.setEnabled now false hphase⟩

theorem Bare.settle [Mul τ] [LT τ] [DecidableLT τ] (h : l.Bare) (now : τ) (a : Attempt) (id : Nat) (up : Bool) :
    (l.settle now a id up).1.Bare := by
  unfold Link.settle
  dsimp only
  split
  · exact h
  · split
    · split <;> exact bare_enter _ now nofun
    · exact bare_enter _ now nofun

variable [Zero τ] [Sub τ] [LE τ] [DecidableLE τ] [LT τ] [DecidableLT τ]

omit [Zero τ] [LT τ] [DecidableLT τ] in
theorem Bare.advance (h : l.Bare) (now : τ) (alive : Bool) : (l.advance now alive).1.Bare := by
  have hclaim : l.claim.1.Bare := fun _ => rfl
  unfold Link.advance
  dsimp only
  split
  · split
    · exact bare_enter l now (by decide)
    · exact h
  · split
    · exact bare_enter l now (by decide)
    · exact bare_leave l now _
  · split
    · exact hclaim
    · exact bare_leave l now _
  · rename_i hphase
    split
    · exact bare_leave l now _
    · split
      · split
        · intro hdisabled
          exact absurd (hphase.symm.trans hdisabled) (by decide)
        · exact bare_leave _ now _
      · exact h
  · split
    · exact bare_leave l now _
    · split
      · exact hclaim
      · exact h

theorem Bare.poll (h : l.Bare) (now : τ) (alive : Bool) : (l.poll now alive).1.Bare := by
  have hadvance := h.advance now alive
  unfold Link.poll
  split
  · exact h
  · dsimp only
    unfold Link.reportStatus
    split
    · exact hadvance
    · exact hadvance

end Link

namespace Rig

/-- Nothing but these changes has become of the clients, each any number of times. -/
inductive Changed (changes : List (Client → Client)) (clients : Array Client) : Array Client → Prop
  | same : Changed changes clients clients
  | step {clients' : Array Client} {change : Client → Client} (h : Changed changes clients clients')
      (hchange : change ∈ changes) : Changed changes clients (clients'.map change)

/-- The bridge has made its sink and has link `k`, disabled or not; nothing but these changes has become of the
clients since the start, and entries have only been added to the journal. -/
structure Held {σ τ : Type} (changes : List (Client → Client)) (k : Nat) (sink : Sink) (start r : Rig σ τ) :
    Prop where
  bridge : r.bridge = { sink := some sink, ownsSink := true, station := some k }
  link : ∃ l, r.link? k = some l ∧ l.Bare
  clients : Changed changes start.clients r.clients
  journal : start.journal.toList <+: r.journal.toList

namespace Held

variable {σ τ : Type} {changes : List (Client → Client)} {k : Nat} {sink : Sink} {start r r' : Rig σ τ}

theorem rebase (h : Held changes k sink start r) : Held changes k sink r r :=
  ⟨h.bridge, h.link, .same, List.prefix_refl _⟩

theorem rewritten (h : Held changes k sink start r) (hr : r.Rewritten r') : Held changes k sink r' r' := by
  obtain ⟨_, rfl⟩ := hr
  exact ⟨h.bridge, h.link, .same, List.prefix_refl _⟩

/-- Whatever leaves the stations, the clients and the bridge alone and adds to the journal. -/
theorem quiet (h : Held changes k sink start r) (hstations : r'.stations = r.stations) (hbridge : r'.bridge = r.bridge)
    (hclients : r'.clients = r.clients) (hjournal : r.journal.toList <+: r'.journal.toList) :
    Held changes k sink start r' where
  bridge := hbridge.trans h.bridge
  link := by
    rw [link?_of_stations hstations]
    exact h.link
  clients := hclients ▸ h.clients
  journal := h.journal.trans hjournal

theorem record (h : Held changes k sink start r) (e : Entry τ) : Held changes k sink start (r.record e) := by
  refine h.quiet rfl rfl rfl ?_
  rw [Rig.record, Array.toList_push]
  exact List.prefix_append _ _

theorem report (h : Held changes k sink start r) (n : Report τ) : Held changes k sink start (r.report n) := h.record _

theorem setLink (h : Held changes k sink start r) {l : Link τ} (hl : l.Bare) :
    Held changes k sink start (r.setLink k l) where
  bridge := h.bridge
  link := by
    obtain ⟨_, hfound, -⟩ := h.link
    exact ⟨l, link?_setLink hfound l, hl⟩
  clients := h.clients
  journal := h.journal

theorem changeClients (h : Held changes k sink start r) {change : Client → Client} (hchange : change ∈ changes) :
    Held changes k sink start (r.changeClients change) where
  bridge := h.bridge
  link := h.link
  clients := h.clients.step hchange
  journal := h.journal

variable [Carrier σ τ]

theorem via {α : Type} (h : Held changes k sink start r) (call : σ → α × σ) :
    Held changes k sink start (r.via call).2 := by
  have hjournal : (r.via call).2.journal =
      r.journal ++ (Carrier.drain (call r.outside).2).1.map OutsideEntry.entry := rfl
  refine h.quiet rfl rfl rfl ?_
  rw [hjournal, Array.toList_appendList]
  exact List.prefix_append _ _

theorem perform (h : Held changes k sink start r) (actions : List (LinkAction τ)) :
    Held changes k sink start (r.perform actions) := by
  induction actions generalizing r with
  | nil => exact h
  | cons action rest ih =>
      cases action with
      | release id => exact ih (h.via _)
      | report n => exact ih (h.report _)

theorem change (h : Held changes k sink start r) {operation : Link τ → Link τ × List (LinkAction τ)}
    (hbare : ∀ l : Link τ, l.Bare → (operation l).1.Bare) : Held changes k sink start (r.change k operation) := by
  obtain ⟨l, hl, hlink⟩ := h.link
  rw [change_eq hl]
  exact (h.setLink (hbare l hlink)).perform _

theorem setEnabled (h : Held changes k sink start r) (on : Bool) : Held changes k sink start (r.setEnabled k on) :=
  h.change fun _ hl => hl.setEnabled _ on

theorem abort (h : Held changes k sink start r) : Held changes k sink start (r.abort k) := h.change fun _ hl => hl

section

variable [Mul τ] [LT τ] [DecidableLT τ]

theorem conclude (h : Held changes k sink start r) (a : Attempt) (id : Nat) (up : Bool) :
    Held changes k sink start (r.conclude k a id up).2 := by
  obtain ⟨l, hl, hlink⟩ := h.link
  rw [conclude_eq hl]
  exact (h.setLink (hlink.settle _ a id up)).perform _

end

variable [Zero τ] [Sub τ] [LE τ] [DecidableLE τ] [LT τ] [DecidableLT τ]

theorem look (h : Held changes k sink start r) : Held changes k sink start (r.look k).2 := by
  obtain ⟨l, hl, hlink⟩ := h.link
  unfold Rig.look
  rw [hl]
  dsimp only
  split
  · exact ((h.via _).setLink (hlink.poll _ _)).perform _
  · exact (h.setLink (hlink.poll _ _)).perform _

/-- Updates keep what is held, whether they connect, fail or break down. -/
theorem updating [Mul τ] (changes : List (Client → Client)) (k : Nat) (sink : Sink) (start : Rig σ τ) :
    Updating k fun _ r => Held changes k sink start r where
  build _ _ h := h.via _
  approach _ h := h.via _
  connect _ h := h.via _
  look h := h.look
  conclude id up h := h.conclude _ id up
  abort h := h.abort
  record e h := h.record e

theorem updateBridge [Mul τ] (h : Held changes k sink start r) {change : Client → Client} (hchange : change ∈ changes) :
    Held changes k sink start (r.updateBridge fun r => r.changeClients change).2 := by
  unfold Rig.updateBridge
  rw [h.bridge]
  apply (updating changes k sink start).update h
  · exact fun _ _ h => h.changeClients hchange
  · exact fun _ h => h
  · exact []

end Held

section

variable {σ τ : Type} [Carrier σ τ] {r opened : Rig σ τ}

/-- A new bridge that has been opened holds a link and a sink of its own making. -/
theorem held_openBridge [Zero τ] {options : BridgeOptions τ} {host port : Option Value} (hnew : r.bridge = {})
    (hopen : r.openBridge options host port = (.ok (), opened)) (changes : List (Client → Client)) :
    Held changes r.stations.size (r.freshSink options) opened opened := by
  have hunlinked : r.unlinked = r := by rw [unlinked, hnew]; rfl
  rw [openBridge_eq, hunlinked] at hopen
  rcases hsink : r.bridgeSink options with ⟨result, r₁⟩
  rw [hsink] at hopen
  have hnone : r.bridge = { sink := none } := hnew
  obtain ⟨hstations, -, ⟨⟨fault, rfl⟩, -⟩ | ⟨rfl, hbridge⟩⟩ := bridgeSink_spec hnone hsink
  · cases hopen
  · obtain ⟨-, rfl⟩ := Prod.mk.inj hopen
    rw [← hstations]
    have hlinked (target : Target) : Held changes r₁.stations.size (r.freshSink options)
        (r₁.linked options.link target (r.freshSink options))
        (r₁.linked options.link target (r.freshSink options)) := by
      refine ⟨?_, ⟨_, link?_addLink r₁ options.link target (r.freshSink options), fun _ => rfl⟩, .same,
        List.prefix_refl _⟩
      rw [linked]
      dsimp only [Rig.report, Rig.record]
      rw [hbridge]
      rfl
    split
    · exact ((hlinked _).setEnabled true).rebase
    · exact hlinked _

end

/-- What the bridge held is given back: it has no link any more, the one it had is disabled and has no transport, and
the client of its sink is not connected.  If it still was at the last, it has been disconnected since. -/
structure Released {σ τ : Type} (k : Nat) (sink : Sink) (last r : Rig σ τ) : Prop where
  bridge : r.bridge = {}
  link : ∃ l, r.link? k = some l ∧ l.phase = .disabled ∧ l.transport = none
  client : ∀ url client, sink = .backend url client → (r.clients[client]?.getD {}).connected = false ∧
    ((last.clients[client]?.getD {}).connected = true →
      ∃ entries, r.journal.toList = last.journal.toList ++ entries ∧ .client .disconnect ∈ entries)

section

variable {σ τ : Type} [Carrier σ τ] {changes : List (Client → Client)} {k : Nat} {sink : Sink} {start r : Rig σ τ}

theorem Held.shutDownBridge (h : Held changes k sink start r) : Released k sink r r.shutDownBridge := by
  have howns : r.bridge.ownsSink = true := by rw [h.bridge]
  have hsink : r.bridge.sink = some sink := by rw [h.bridge]
  have hoff : r.linkOff = r.shutDownLink k := by rw [linkOff, h.bridge]
  have hturned : Held changes k sink r (r.shutDownLink k) := h.rebase.change fun _ hl => hl.setEnabled _ false
  refine ⟨?_, ?_, ?_⟩
  · apply bridge_shutDownBridge
    rw [h.bridge]
    exact .opened none sink k
  · obtain ⟨l, hl, hbare⟩ := h.link
    refine ⟨_, ?_, hbare.shutDown r.now⟩
    rw [link?_of_stations r.shutDownBridge_frame.1, hoff]
    exact link?_change hl _
  · rintro url client rfl
    refine ⟨(closes_shutDownBridge howns hsink).1, ?_⟩
    intro hconnected
    obtain ⟨r₁, hclients, hbefore, -, hjournal⟩ := shutDownBridge_owned howns hsink
    have hclosed := (closeSink_backend r₁ url client).2 (by rw [hclients]; exact hconnected)
    obtain ⟨entries, hentries⟩ := hturned.journal
    refine ⟨entries ++ [.client .disconnect, .report (.bridge .shutDown)], ?_, by simp⟩
    rw [hjournal, hclosed, hbefore, hoff, Array.toList_push, Array.toList_push, ← hentries]
    simp

/-- Also after a breakdown, which is reported first. -/
theorem Held.giveUp (h : Held changes k sink start r) (reason : String) : Released k sink r (r.giveUp reason) := by
  obtain ⟨hbridge, hlink, hclient⟩ := (h.report (.bridge (.fatal reason))).shutDownBridge
  refine ⟨hbridge, hlink, fun url client hsink => ⟨(hclient url client hsink).1, fun hconnected => ?_⟩⟩
  obtain ⟨entries, hentries, hmem⟩ := (hclient url client hsink).2 hconnected
  refine ⟨.report (.bridge (.fatal reason)) :: entries, ?_, List.mem_cons_of_mem _ hmem⟩
  rw [Rig.giveUp, hentries, Rig.report, Rig.record, Array.toList_push, List.append_assoc, List.singleton_append]

end

theorem mem_weave {τ : Type} {e : Entry τ} {entries : List (Entry τ)} (h : e ∈ entries)
    (signals : List ArrivingSignal) : e ∈ weave entries signals := by
  induction signals generalizing entries with
  | nil => exact h
  | cons first rest ih =>
      rw [← List.take_append_drop first.after entries, List.mem_append] at h
      rw [weave, List.mem_append, List.mem_cons]
      rcases h with hbefore | hafter
      · exact .inl hbefore
      · exact .inr (.inr (ih hafter))

/-- Signals that come while the bridge is shut down are only reported. -/
theorem Released.work {σ τ : Type} {k : Nat} {sink : Sink} {d : Driving σ τ} {r : Rig σ τ}
    (h : Released k sink d.rig r) (signals : List ArrivingSignal) : Released k sink d.rig (d.work signals r).rig := by
  cases signals with
  | nil => exact h
  | cons first rest =>
      refine ⟨h.bridge, h.link, ?_⟩
      intro url client hsink
      obtain ⟨hidle, hclosed⟩ := h.client url client hsink
      refine ⟨hidle, ?_⟩
      intro hconnected
      obtain ⟨entries, hentries, hmem⟩ := hclosed hconnected
      refine ⟨_, ?_, mem_weave hmem (first :: rest)⟩
      have hnew : r.journal.toList.drop d.rig.journal.size = entries := by
        rw [hentries, ← Array.length_toList, List.drop_left]
      rw [← hnew]
      exact Array.toList_appendList

end Rig

/-- What may become of the backend's client in a round. -/
def Round.changes {τ : Type} (round : Round τ) : List (Client → Client) :=
  round.client :: round.window :: round.pause.filterMap fun
    | .client change => some change
    | _ => none

/-- What may become of the backend's client while the program runs. -/
def Schedule.changes {τ : Type} (schedule : Schedule τ) : List (Client → Client) :=
  schedule.client :: schedule.rounds.flatMap Round.changes

namespace Driving

variable {σ τ : Type} {changes : List (Client → Client)} {k : Nat} {sink : Sink} {start : Rig σ τ} {d : Driving σ τ}

theorem held_handle (h : Rig.Held changes k sink start d.rig) (handled : List Value) :
    Rig.Held changes k sink start (handled.foldl handle d).rig := by
  induction handled generalizing d with
  | nil => exact h
  | cons signal rest ih => exact ih (h.report _)

theorem held_work {r : Rig σ τ} (h : Rig.Held changes k sink start d.rig) (hr : Rig.Held changes k sink start r)
    (signals : List ArrivingSignal) : Rig.Held changes k sink start (d.work signals r).rig := by
  cases signals with
  | nil => exact hr
  | cons first rest =>
      refine ⟨hr.bridge, hr.link, hr.clients, h.journal.trans ?_⟩
      rw [work, List.isEmpty_cons]
      simp only [Bool.false_eq_true, if_false, Array.toList_appendList]
      exact List.prefix_append _ _

variable [Carrier σ τ]

theorem held_wait (h : Rig.Held changes k sink start d.rig) (time : τ) :
    Rig.Held changes k sink start (d.wait time).rig :=
  h.quiet rfl rfl rfl (List.prefix_refl _)

theorem held_meet (h : Rig.Held changes k sink start d.rig) {happenings : List (Happening τ)}
    (hchanges : ∀ change, .client change ∈ happenings → change ∈ changes) :
    Rig.Held changes k sink start (d.meet happenings).2.2.rig := by
  induction happenings generalizing d with
  | nil => exact h
  | cons happening rest ih =>
      have hrest : ∀ change, .client change ∈ rest → change ∈ changes :=
        fun change hchange => hchanges change (List.mem_cons_of_mem _ hchange)
      cases happening with
      | nothing => exact ih h hrest
      | delay time => exact ih (held_wait h time) hrest
      | client change => exact ih (h.changeClients (hchanges change List.mem_cons_self)) hrest
      | fault reason => exact h
      | signal signal => exact ih (h.report _) hrest

/-- A pause breaks down exactly if one of its happenings says so. -/
theorem isSome_meet (d : Driving σ τ) (happenings : List (Happening τ)) :
    (d.meet happenings).2.1.isSome = true ↔ ∃ text, .fault text ∈ happenings := by
  induction happenings generalizing d with
  | nil => simp [meet]
  | cons happening rest ih =>
      cases happening with
      | nothing => simpa [meet] using ih d
      | delay time => simpa [meet] using ih _
      | client change => simpa [meet] using ih _
      | fault reason => simp [meet]
      | signal signal => simpa [meet] using ih _

variable [Zero τ] [Sub τ] [Mul τ] [LE τ] [DecidableLE τ] [LT τ] [DecidableLT τ]

/-- What the update of a round comes to. -/
def updated (d : Driving σ τ) (round : Round τ) : Except Fault Unit × Rig σ τ :=
  ((round.early.foldl handle d).changeClients round.client).rig.updateBridge fun r => r.changeClients round.window

/-- In a round the update raises something, or it returns and the pause raises something. -/
def Raises (d : Driving σ τ) (round : Round τ) : Prop :=
  (∃ fault, (d.updated round).1 = .error fault) ∨
    (d.updated round).1 = .ok () ∧ ∃ text, .fault text ∈ round.pause

/-- The rig when the loop is left, by a signal or by a breakdown, or as far as the rounds are known. -/
def last (d : Driving σ τ) (pause : τ) : List (Round τ) → Rig σ τ
  | [] => d.rig
  | round :: rest =>
    if d.running then
      match d.round pause round with
      | (_, some _, d) => d.rig
      | (_, none, d) => d.last pause rest
    else d.rig

/-- The loop comes to a test of its flag: each test before it was passed, and nothing was raised in the rounds that
followed. -/
inductive Reaches (pause : τ) : Driving σ τ → List (Round τ) → Driving σ τ → List (Round τ) → Prop
  | here (d : Driving σ τ) (rounds : List (Round τ)) : Reaches pause d rounds d rounds
  | next {d d' : Driving σ τ} {round : Round τ} {rest rest' : List (Round τ)} (hpassed : d.running = true)
      (hcalm : ¬ d.Raises round) (h : Reaches pause (d.round pause round).2.2 rest d' rest') :
      Reaches pause d (round :: rest) d' rest'

/-- The loop comes to a round in which something is raised. -/
def BreaksDown (pause : τ) (d : Driving σ τ) (rounds : List (Round τ)) : Prop :=
  ∃ d' round rest, Reaches pause d rounds d' (round :: rest) ∧ d'.running = true ∧ d'.Raises round

/-- The loop comes to a test with its flag cleared. -/
def Stops (pause : τ) (d : Driving σ τ) (rounds : List (Round τ)) : Prop :=
  ∃ d' rest, Reaches pause d rounds d' rest ∧ d'.running = false

variable {pause : τ} {round : Round τ} {rounds : List (Round τ)} {closing : List ArrivingSignal}

theorem isSome_round (d : Driving σ τ) (pause : τ) (round : Round τ) :
    (d.round pause round).2.1.isSome = true ↔ d.Raises round := by
  unfold Driving.round Raises updated
  dsimp only
  rcases ((round.early.foldl handle d).changeClients round.client).rig.updateBridge
    (fun r => r.changeClients round.window) with ⟨fault | ⟨⟩, r⟩
  · simp
  · simp only [isSome_meet, reduceCtorEq, exists_false, true_and, false_or]

theorem held_round (h : Rig.Held changes k sink start d.rig) (pause : τ) {round : Round τ}
    (hchanges : round.changes ⊆ changes) : Rig.Held changes k sink start (d.round pause round).2.2.rig := by
  have hclient : round.client ∈ changes := hchanges List.mem_cons_self
  have hwindow : round.window ∈ changes := hchanges (List.mem_cons_of_mem _ List.mem_cons_self)
  have hpause : ∀ change, .client change ∈ round.pause → change ∈ changes := by
    intro change hchange
    apply hchanges
    refine List.mem_cons_of_mem _ (List.mem_cons_of_mem _ (List.mem_filterMap.mpr ⟨_, hchange, rfl⟩))
  have hearly : Rig.Held changes k sink start ((round.early.foldl handle d).changeClients round.client).rig :=
    (held_handle h round.early).changeClients hclient
  have hupdated := hearly.updateBridge hwindow
  unfold Driving.round
  dsimp only
  rcases hupdate : ((round.early.foldl handle d).changeClients round.client).rig.updateBridge
    (fun r => r.changeClients round.window) with ⟨fault | ⟨⟩, r⟩
  · rw [hupdate] at hupdated
    exact held_work hearly hupdated round.update
  · rw [hupdate] at hupdated
    exact held_meet (held_wait (held_work hearly hupdated round.update) pause) hpause

/-- However the loop ends, the bridge is shut down last and has given back what it held when the loop was left. -/
theorem released_drive (h : Rig.Held changes k sink start d.rig)
    (hchanges : ∀ round ∈ rounds, round.changes ⊆ changes)
    (hended : (d.drive pause closing rounds).ending ≠ .driving) :
    (d.drive pause closing rounds).course.getLast? = some .shutDown ∧
      Rig.Held changes k sink start (d.last pause rounds) ∧
      Rig.Released k sink (d.last pause rounds) (d.drive pause closing rounds).rig := by
  have hclose {d : Driving σ τ} {r : Rig σ τ} (ending : Ending) (hr : Rig.Released k sink d.rig r) :
      (d.close ending closing r).course.getLast? = some .shutDown ∧
        Rig.Released k sink d.rig (d.close ending closing r).rig :=
    ⟨List.getLast?_concat, hr.work closing⟩
  induction rounds generalizing d with
  | nil =>
      rw [drive] at hended ⊢
      split at hended
      · exact absurd rfl hended
      · rw [if_neg ‹_›]
        obtain ⟨hlast, hreleased⟩ := hclose .stopped h.shutDownBridge
        exact ⟨hlast, h, hreleased⟩
  | cons round rest ih =>
      obtain ⟨hfirst, hrest⟩ := List.forall_mem_cons.mp hchanges
      rw [drive] at hended ⊢
      rw [last]
      split at hended
      · rw [if_pos ‹_›, if_pos ‹_›]
        have hround := held_round h pause hfirst
        generalize d.round pause round = result at hended hround ⊢
        obtain ⟨course, reason, d'⟩ := result
        cases reason with
        | some reason =>
            obtain ⟨hlast, hreleased⟩ := hclose .broken (hround.giveUp reason)
            refine ⟨?_, hround, hreleased⟩
            dsimp only [LoopRun.after]
            rw [List.getLast?_append, hlast]
            rfl
        | none =>
            obtain ⟨hlast, hheld, hreleased⟩ := ih hround hrest hended
            refine ⟨?_, hheld, hreleased⟩
            dsimp only [LoopRun.after]
            rw [List.getLast?_append, hlast]
            rfl
      · rw [if_neg ‹_›, if_neg ‹_›]
        obtain ⟨hlast, hreleased⟩ := hclose .stopped h.shutDownBridge
        exact ⟨hlast, h, hreleased⟩

/-- Where the loop can come to with a round ahead: here, or on from the next test. -/
theorem reaches_cons_iff {d' : Driving σ τ} {rest rest' : List (Round τ)} :
    Reaches pause d (round :: rest) d' rest' ↔ (d' = d ∧ rest' = round :: rest) ∨
      d.running = true ∧ ¬ d.Raises round ∧ Reaches pause (d.round pause round).2.2 rest d' rest' := by
  constructor
  · intro h
    cases h with
    | here => exact .inl ⟨rfl, rfl⟩
    | next hpassed hcalm h => exact .inr ⟨hpassed, hcalm, h⟩
  · rintro (⟨rfl, rfl⟩ | ⟨hpassed, hcalm, h⟩)
    · exact .here _ _
    · exact .next hpassed hcalm h

theorem drive_of_cleared (hcleared : d.running = false) (pause : τ) (closing : List ArrivingSignal)
    (rounds : List (Round τ)) : (d.drive pause closing rounds).ending = .stopped := by
  cases rounds with
  | nil => rw [drive, hcleared]; rfl
  | cons round rest => rw [drive, hcleared]; rfl

/-- With its flag cleared the loop is stopped where it is. -/
theorem ending_of_cleared (hcleared : d.running = false) (pause : τ) (closing : List ArrivingSignal)
    (rounds : List (Round τ)) :
    ((d.drive pause closing rounds).ending = .broken ↔ BreaksDown pause d rounds) ∧
      ((d.drive pause closing rounds).ending = .stopped ↔ Stops pause d rounds) := by
  rw [drive_of_cleared hcleared]
  refine ⟨⟨?_, ?_⟩, fun _ => ⟨d, rounds, .here d rounds, hcleared⟩, fun _ => rfl⟩
  · intro hbroken
    cases hbroken
  · rintro ⟨d', round, rest, hreaches, hpassed, -⟩
    cases hreaches with
    | here => exact absurd (hcleared.symm.trans hpassed) (by decide)
    | next hpassed => exact absurd (hcleared.symm.trans hpassed) (by decide)

theorem drive_of_raises (hpassed : d.running = true) (hraises : d.Raises round) (closing : List ArrivingSignal)
    (rest : List (Round τ)) : (d.drive pause closing (round :: rest)).ending = .broken := by
  have hreason := (isSome_round d pause round).mpr hraises
  rw [drive, if_pos hpassed]
  generalize d.round pause round = result at hreason ⊢
  obtain ⟨course, reason, d'⟩ := result
  obtain ⟨reason, rfl⟩ := Option.isSome_iff_exists.mp hreason
  rfl

theorem drive_of_calm (hpassed : d.running = true) (hcalm : ¬ d.Raises round) (closing : List ArrivingSignal)
    (rest : List (Round τ)) : (d.drive pause closing (round :: rest)).ending =
      ((d.round pause round).2.2.drive pause closing rest).ending := by
  have hreason := mt (isSome_round d pause round).mp hcalm
  rw [drive, if_pos hpassed]
  generalize d.round pause round = result at hreason ⊢
  obtain ⟨course, reason, d'⟩ := result
  obtain rfl : reason = none := by simpa using hreason
  rfl

/-- How the loop ends, if it does. -/
theorem ending_drive (d : Driving σ τ) (pause : τ) (closing : List ArrivingSignal) (rounds : List (Round τ)) :
    ((d.drive pause closing rounds).ending = .broken ↔ BreaksDown pause d rounds) ∧
      ((d.drive pause closing rounds).ending = .stopped ↔ Stops pause d rounds) := by
  induction rounds generalizing d with
  | nil =>
      by_cases hcleared : d.running = false
      · exact ending_of_cleared hcleared pause closing []
      · have hpassed : d.running = true := by simpa using hcleared
        rw [drive, if_pos hpassed]
        refine ⟨⟨?_, ?_⟩, ?_, ?_⟩
        · intro hbroken
          cases hbroken
        · rintro ⟨d', round, rest, hreaches, -⟩
          cases hreaches
        · intro hstopped
          cases hstopped
        · rintro ⟨d', rest, hreaches, hcleared'⟩
          cases hreaches
          exact absurd hcleared' hcleared
  | cons round rest ih =>
      by_cases hcleared : d.running = false
      · exact ending_of_cleared hcleared pause closing (round :: rest)
      · have hpassed : d.running = true := by simpa using hcleared
        by_cases hraises : d.Raises round
        · rw [drive_of_raises hpassed hraises]
          refine ⟨⟨fun _ => ⟨d, round, rest, .here d _, hpassed, hraises⟩, fun _ => rfl⟩, ?_, ?_⟩
          · intro hstopped
            cases hstopped
          · rintro ⟨d', rest', hreaches, hcleared'⟩
            rcases reaches_cons_iff.mp hreaches with ⟨rfl, -⟩ | ⟨-, hcalm, -⟩
            · exact absurd hcleared' hcleared
            · exact absurd hraises hcalm
        · rw [drive_of_calm hpassed hraises]
          obtain ⟨hbroken, hstopped⟩ := ih (d.round pause round).2.2
          constructor
          · rw [hbroken]
            constructor
            · rintro ⟨d', round', rest', hreaches, hraised⟩
              exact ⟨d', round', rest', .next hpassed hraises hreaches, hraised⟩
            · rintro ⟨d', round', rest', hreaches, hpassed', hraises'⟩
              rcases reaches_cons_iff.mp hreaches with ⟨rfl, hrest⟩ | ⟨-, -, hreaches⟩
              · obtain ⟨rfl, -⟩ := List.cons.inj hrest
                exact absurd hraises' hraises
              · exact ⟨d', round', rest', hreaches, hpassed', hraises'⟩
          · rw [hstopped]
            constructor
            · rintro ⟨d', rest', hreaches, hcleared'⟩
              exact ⟨d', rest', .next hpassed hraises hreaches, hcleared'⟩
            · rintro ⟨d', rest', hreaches, hcleared'⟩
              rcases reaches_cons_iff.mp hreaches with ⟨rfl, -⟩ | ⟨-, -, hreaches⟩
              · exact absurd hcleared' hcleared
              · exact ⟨d', rest', hreaches, hcleared'⟩

def armed (d : Driving σ τ) (schedule : Schedule τ) : Driving σ τ :=
  schedule.armed.foldl handle ({ d with running := true }.changeClients schedule.client)

theorem released_run {schedule : Schedule τ} (h : Rig.Held schedule.changes k sink start d.rig)
    (hended : (d.run pause schedule).ending ≠ .driving) :
    (d.run pause schedule).course.getLast? = some .shutDown ∧
      Rig.Held schedule.changes k sink start ((d.armed schedule).last pause schedule.rounds) ∧
      Rig.Released k sink ((d.armed schedule).last pause schedule.rounds) (d.run pause schedule).rig := by
  have hset : Rig.Held schedule.changes k sink start ({ d with running := true }.changeClients schedule.client).rig :=
    Rig.Held.changeClients h List.mem_cons_self
  have hrounds : ∀ round ∈ schedule.rounds, round.changes ⊆ schedule.changes := by
    intro round hround change hchange
    exact List.mem_cons_of_mem _ (List.mem_flatMap.mpr ⟨round, hround, hchange⟩)
  obtain ⟨hlast, hheld, hreleased⟩ := released_drive (held_handle hset schedule.armed) hrounds hended
  have hcourse : (d.run pause schedule).course = (.armed :: Milestone.signals schedule.armed) ++
      ((d.armed schedule).drive pause schedule.closing schedule.rounds).course := rfl
  rw [hcourse, List.getLast?_append]
  exact ⟨by rw [armed, hlast]; rfl, hheld, hreleased⟩

end Driving

namespace Rig

variable {σ τ : Type} [Carrier σ τ] [Zero τ] {r : Rig σ τ} {options : BridgeOptions τ} {host port : Option Value}
variable {schedule : Schedule τ} {d : Driving σ τ}

theorem held_launch (hnew : r.bridge = {}) (h : r.launch options host port schedule = .ok d) :
    Held schedule.changes r.stations.size (r.freshSink options) d.rig d.rig := by
  unfold launch at h
  rcases hopen : r.openBridge options host port with ⟨fault | ⟨⟩, opened⟩
  · rw [hopen] at h
    cases h
  · rw [hopen] at h
    obtain rfl := Except.ok.inj h
    have hopened := (held_openBridge hnew hopen schedule.changes).rewritten
      (Driving.rewritten_work ⟨r, true⟩ schedule.opening opened)
    have hturned := hopened.setEnabled true
    rw [setBridgeEnabled, hopened.bridge]
    exact hturned.rewritten (Driving.rewritten_work _ schedule.enabling _)

variable [Sub τ] [Mul τ] [LE τ] [DecidableLE τ] [LT τ] [DecidableLT τ]

/-- How the program ends.  Once its bridge has been opened and its link turned on, the loop may go on for as long as
it likes; but if it ends, it has shut the bridge down last: the bridge has no link any more, the one it had is disabled
and has no transport, and the client of its sink is disconnected if it was connected when the loop was left.  Until
then nothing has become of the clients but what the schedule says.  The loop breaks down exactly if
an update or a pause raises something, and otherwise it stops, at a test with its flag cleared.  With a rate that is no
number there is no loop: `runProgram` refuses it before. -/
theorem launch_releases (hnew : r.bridge = {}) (h : r.launch options host port schedule = .ok d) (pause : τ) :
    d.rig.bridge = { sink := some (r.freshSink options), ownsSink := true, station := some r.stations.size } ∧
    ((d.run pause schedule).ending ≠ .driving → (d.run pause schedule).course.getLast? = some .shutDown ∧
      d.rig.journal.toList <+: ((d.armed schedule).last pause schedule.rounds).journal.toList ∧
      Changed schedule.changes d.rig.clients ((d.armed schedule).last pause schedule.rounds).clients ∧
      Released r.stations.size (r.freshSink options) ((d.armed schedule).last pause schedule.rounds)
        (d.run pause schedule).rig) ∧
    ((d.run pause schedule).ending = .broken ↔ (d.armed schedule).BreaksDown pause schedule.rounds) ∧
    ((d.run pause schedule).ending = .stopped ↔ (d.armed schedule).Stops pause schedule.rounds) := by
  have hheld := held_launch hnew h
  obtain ⟨hbroken, hstopped⟩ := (d.armed schedule).ending_drive pause schedule.closing schedule.rounds
  refine ⟨hheld.bridge, fun hended => ?_, hbroken, hstopped⟩
  obtain ⟨hlast, hleft, hreleased⟩ := Driving.released_run hheld hended
  exact ⟨hlast, hleft.journal, hleft.clients, hreleased⟩

/-- A program whose transports break down on connecting. -/
def failing : Rig (Scripted Int) Int := { outside := { clock := 0, connectFault := some "out of memory" } }

/-- Settings with a backend for notifications. -/
def overlayOptions : BridgeOptions Int := { plainOptions with notifyUrl := some "overlay" }

/-- The backend's client loses its connection in the first pause, and has it again before the second update; a
signal comes just before that. -/
def interrupted : Schedule Int where
  rounds := [
    { pause := [.client fun c => { c with connected := false }] },
    { early := [terminationSignal], client := fun c => { c with connected := true } }]

/-- The second update raises something.  The signal has come before, but the flag is not tested again: the program
breaks down, and disconnects the client, which is connected again by then. -/
theorem launch_releases_raised :
    ∃ d : Driving (Scripted Int) Int, failing.launch overlayOptions none none interrupted = .ok d ∧
      (d.run 1 interrupted).ending = .broken ∧
      (d.run 1 interrupted).course = [.armed, .passed, .update, .pause, .passed, .signal, .update, .shutDown] ∧
      ((d.armed interrupted).last 1 interrupted.rounds).clients = #[{ connected := true }] ∧
      Released 0 (.backend "overlay" 0) ((d.armed interrupted).last 1 interrupted.rounds)
        (d.run 1 interrupted).rig := by
  have hlaunch : failing.launch overlayOptions none none interrupted = .ok _ := rfl
  obtain ⟨-, hreleases, -⟩ := launch_releases rfl hlaunch 1
  obtain ⟨-, -, -, hreleased⟩ := hreleases (by decide +kernel)
  exact ⟨_, hlaunch, by decide +kernel, by decide +kernel, by decide +kernel, hreleased⟩

end Rig

namespace Driving

variable {σ τ : Type} [Carrier σ τ] [Zero τ] [Sub τ] [Mul τ] [LE τ] [DecidableLE τ] [LT τ] [DecidableLT τ]

/-- A signal in the pause of a calm round clears the flag. -/
theorem running_round_of_signal {d : Driving σ τ} {signal : Value} (hcalm : ¬ d.Raises { pause := [.signal signal] })
    (pause : τ) : (d.round pause { pause := [.signal signal] }).2.2.running = false := by
  unfold Driving.Raises at hcalm
  unfold Driving.round
  rcases hupdate : d.updated { pause := [.signal signal] } with ⟨fault | ⟨⟩, r⟩
  · rw [hupdate] at hcalm
    exact absurd (.inl ⟨fault, rfl⟩) hcalm
  · unfold Driving.updated at hupdate
    dsimp only [List.foldl_nil] at hupdate ⊢
    rw [hupdate]
    rfl

/-- With a signal in the pause after the last happening, the loop does not go on for ever. -/
theorem ending_ofHappenings (d : Driving σ τ) (pause : τ) (happenings : List (Happening τ)) :
    (d.run pause (.ofHappenings happenings)).ending ≠ .driving := by
  -- what comes first is a round, and the rounds after it do not matter if the loop ends with it
  have hfirst {d : Driving σ τ} {round : Round τ} {rest : List (Round τ)}
      (hrest : d.running = true → ¬ d.Raises round →
        ((d.round pause round).2.2.drive pause [] rest).ending ≠ .driving) :
      (d.drive pause [] (round :: rest)).ending ≠ .driving := by
    by_cases hcleared : d.running = false
    · rw [drive_of_cleared hcleared]
      nofun
    · have hpassed : d.running = true := by simpa using hcleared
      by_cases hraises : d.Raises round
      · rw [drive_of_raises hpassed hraises]
        nofun
      · rw [drive_of_calm hpassed hraises]
        exact hrest hpassed hraises
  have hdrive : ∀ d : Driving σ τ, (d.drive pause [] (Schedule.ofHappenings happenings).rounds).ending ≠ .driving := by
    induction happenings with
    | nil =>
        intro d
        apply hfirst
        intro _ hcalm
        rw [drive_of_cleared (running_round_of_signal hcalm pause)]
        nofun
    | cons happening rest ih =>
        intro d
        apply hfirst
        intro _ _
        exact ih _
  exact hdrive _

end Driving

/-- The program exits with a failure exactly if an update or a pause of its loop raised something. -/
theorem runLoop_stopped_iff {settings : Settings} {options : LoopOptions} {net : Network Float} {client : Client}
    {log : LogOutput} {happenings : List (Happening Float)} {outcome : LoopOutcome}
    (h : runLoop settings options net client log happenings = .ok outcome) :
    ∃ d : Driving (Lan Float) Float,
      Rig.launch { outside := { net }, freshClient := client } settings.bridgeOptions options.host options.port
        (.ofHappenings happenings) = .ok d ∧
      (outcome.stopped = false ↔ (d.armed (.ofHappenings happenings)).BreaksDown outcome.pause
        (Schedule.ofHappenings happenings).rounds) := by
  simp only [runLoop, runProgram, bind, Except.bind] at h
  split at h
  · cases h
  · split at h
    · cases h
    · rename_i d hlaunch
      split at h
      · cases h
      · obtain rfl := Except.ok.inj h
        refine ⟨d, hlaunch, ?_⟩
        rename_i rate _
        have hended := d.ending_ofHappenings (tickLength rate) happenings
        obtain ⟨hbroken, -⟩ := (d.armed (.ofHappenings happenings)).ending_drive (tickLength rate) []
          (Schedule.ofHappenings happenings).rounds
        dsimp only
        rw [← hbroken, decide_eq_false_iff_not]
        change (d.run (tickLength rate) (.ofHappenings happenings)).ending ≠ .stopped ↔
          (d.run (tickLength rate) (.ofHappenings happenings)).ending = .broken
        cases hending : (d.run (tickLength rate) (.ofHappenings happenings)).ending with
        | stopped => simp
        | broken => simp
        | driving => exact absurd hending hended

end PeripheralLink

import PeripheralLink.Proofs.Rig.Loss
import PeripheralLink.Proofs.Rig.Oversized
/-!
The stages of a use.  Sending, receiving and requests hold the lock when they ask for the transport and when they
count, and not in between; so a use is taken apart into stages, and other calls may come in after each of them.
`Rig.use_eq_proceed` ties the stages to the whole use.

`Alike` is what a use leaves as it is: everything but the outside, the journal and what the link has counted of its
messages.
-/

namespace PeripheralLink

namespace Use

def Fits : Use → Prop
  | send m => m.HeaderFits
  | receive => True
  | request m => m.HeaderFits

def line : Use → Except FrameError (List UInt8)
  | send m => m.lineBytes
  | receive => .ok []
  | request m => m.lineBytes

def awaits : Use → Bool
  | send _ => false
  | receive => true
  | request _ => true

/-- How far a use has come. -/
inductive Stage
  /-- Its message cannot be written, which is still to be counted. -/
  | unwritten
  | given (id : Nat) (bytes : List UInt8)
  | tried (m : Message) (delivered : Bool)
  | exchanged (line : Option (List UInt8))
  | received (line : Option (List UInt8))
  | returned (result : Except Fault Bool)

def Stage.result? : Stage → Option Bool
  | returned (.ok result) => some result
  | _ => none

end Use

namespace Link

variable {τ : Type} {l : Link τ} {inFlight : List Attempt}

/-- What a link has counted of its messages: those sent, those received, and failures. -/
def messages (l : Link τ) : Nat × Nat × Nat := (l.counters.sent, l.counters.received, l.counters.failed)

theorem messages_of_counters {l' : Link τ} (h : l'.counters = l.counters) : l'.messages = l.messages := by
  rw [messages, messages, h]

theorem Sound.messages_poll [Zero τ] [Sub τ] [LE τ] [DecidableLE τ] [LT τ] [DecidableLT τ]
    (h : l.Sound inFlight) (now : τ) (alive : Bool) : (l.poll now alive).1.messages = l.messages := by
  cases hidle : l.attempting with
  | true => rw [poll_of_attempting hidle]
  | false =>
      obtain ⟨status, reports, hpoll⟩ := poll_of_idle hidle now alive
      rw [hpoll]
      rcases h.advance_cases now alive with ⟨heq, -⟩ | ⟨-, heq⟩ | ⟨-, heq⟩ | ⟨-, -, -, heq⟩ | ⟨-, -, -, heq⟩ <;>
        rw [heq] <;> rfl

theorem messages_settle [Mul τ] [LT τ] [DecidableLT τ] (l : Link τ) (now : τ) (a : Attempt) (id : Nat) (up : Bool) :
    (l.settle now a id up).1.messages = l.messages := by
  by_cases hcurrent : a.generation = l.generation
  · cases up with
    | true =>
        obtain ⟨reports, heq⟩ := settle_up hcurrent now id
        rw [heq]
        by_cases horigin : a.origin = .reconnecting <;> simp [messages, risen, horigin]
    | false =>
        obtain ⟨reports, heq⟩ := settle_down hcurrent now id
        rw [heq]
        rfl
  · rw [settle_of_ne hcurrent]
    rfl

/-- Taking what was received counts the message that it is, or a failure; a line that cannot even be reported is
not counted. -/
theorem accept_outcome (l : Link τ) (line : Option (List UInt8)) :
    (∃ m, (l.accept line).1 = .ok (some m) ∧ (l.accept line).2.1 = l.countReceived) ∨
      (l.accept line).1 = .ok none ∧ (l.accept line).2.1 = l.countFailed ∨
      ∃ e, (l.accept line).1 = .error e ∧ (l.accept line).2.1 = l := by
  cases line with
  | none => exact .inr (.inl ⟨rfl, rfl⟩)
  | some bytes =>
      rw [accept]
      cases l.codec.decode (.bytes bytes) with
      | message m => exact .inl ⟨m, rfl, rfl⟩
      | dropped reason => exact .inr (.inl ⟨rfl, rfl⟩)
      | failed reason => exact .inr (.inr ⟨reason, rfl, rfl⟩)

end Link

/-- An operation only counts and reports, and counts nothing but messages. -/
def Link.CountsMessages {τ : Type} (operation : Link τ → Link τ × List (LinkAction τ)) : Prop :=
  ∀ l, l.Counts (operation l) ∧ (operation l).1.counters.attempts = l.counters.attempts ∧
    (operation l).1.counters.reconnects = l.counters.reconnects

section

variable {τ : Type}

theorem Link.countsMessages_sent (m : Message) (delivered : Bool) :
    Link.CountsMessages fun l : Link τ => l.sent m delivered := by
  intro l
  refine ⟨l.counts_sent m delivered, ?_⟩
  cases delivered <;> exact ⟨rfl, rfl⟩

theorem Link.countsMessages_countSent : Link.CountsMessages fun l : Link τ => (l.countSent, []) :=
  fun _ => ⟨⟨⟨_, rfl⟩, [], rfl⟩, rfl, rfl⟩

theorem Link.countsMessages_countFailed : Link.CountsMessages fun l : Link τ => (l.countFailed, []) :=
  fun _ => ⟨⟨⟨_, rfl⟩, [], rfl⟩, rfl, rfl⟩

theorem Link.countsMessages_accept (line : Option (List UInt8)) :
    Link.CountsMessages fun l : Link τ => (l.accept line).2 := by
  intro l
  refine ⟨l.counts_accept line, ?_⟩
  rcases l.accept_outcome line with ⟨_, -, heq⟩ | ⟨-, heq⟩ | ⟨_, -, heq⟩ <;> rw [heq] <;> exact ⟨rfl, rfl⟩

end

namespace Rig

variable {σ τ : Type} {r r' : Rig σ τ} {k : Nat} {l : Link τ}

section

variable [Carrier σ τ]

def enter (r : Rig σ τ) (k : Nat) (u : Use) : Use.Stage × Rig σ τ :=
  match (r.link? k).bind Link.channel? with
  | none => (.returned (.ok false), r)
  | some id =>
    match u.line with
    | .ok bytes => (.given id bytes, r)
    | .error e =>
      if e.isMalformed then (.unwritten, r.report (.link (.notEncoded e)))
      else (.returned (.error (.line e)), r)

/-- A use goes on from a stage: it calls the transport, or counts. -/
def proceed (r : Rig σ τ) (k : Nat) (u : Use) : Use.Stage → Use.Stage × Rig σ τ
  | .unwritten => (.returned (.ok false), r.change k fun l => (l.countFailed, []))
  | .given id bytes =>
    match u with
    | .send m =>
      let (delivered, r) := r.via fun o => Carrier.send o id bytes
      (.tried m delivered, r)
    | .receive =>
      let (line, r) := r.via fun o => Carrier.receive o id
      (.received line, r)
    | .request _ =>
      match r.via fun o => Carrier.exchange o id bytes with
      | (.error fault, r) => (.returned (.error fault), r)
      | (.ok line, r) => (.exchanged line, r)
  | .tried m delivered => (.returned (.ok delivered), r.change k (·.sent m delivered))
  | .exchanged line => (.received line, if line.isSome then r.change k fun l => (l.countSent, []) else r)
  | .received line =>
    let (result, r) := r.accept k line
    (.returned (result.map Option.isSome), r)
  | .returned result => (.returned result, r)

/-- A use is what its stages come to when nothing comes in between. -/
theorem use_eq_proceed (r : Rig σ τ) (k : Nat) (u : Use) :
    (fun now => now.2.proceed k u now.1)^[3] (r.enter k u) = (.returned (r.use k u).1, (r.use k u).2) := by
  simp only [Function.iterate_succ, Function.iterate_zero, Function.comp_apply, id_eq]
  cases hchannel : (r.link? k).bind Link.channel? with
  | none => cases u <;> simp [use, enter, proceed, send, receive, request, hchannel] <;> rfl
  | some id =>
      cases u with
      | receive => simp only [use, enter, proceed, receive, hchannel, Use.line]
      | send m =>
          cases hbytes : m.lineBytes with
          | ok bytes => simp only [use, enter, proceed, send, hchannel, Use.line, hbytes]
          | error e =>
              cases hmalformed : e.isMalformed <;>
                simp [use, enter, proceed, send, hchannel, Use.line, hbytes, hmalformed]
      | request m =>
          cases hbytes : m.lineBytes with
          | error e =>
              cases hmalformed : e.isMalformed <;>
                simp [use, enter, proceed, request, hchannel, Use.line, hbytes, hmalformed] <;> rfl
          | ok bytes =>
              simp only [use, enter, proceed, request, hchannel, Use.line, hbytes]
              rcases r.via fun o => Carrier.exchange o id bytes with ⟨fault | line, r₁⟩ <;> rfl

/-- On a link that is not connected a use returns at once, and does nothing. -/
theorem enter_of_ne_connected (hl : r.link? k = some l) (hphase : l.phase ≠ .connected) (u : Use) :
    r.enter k u = (.returned (.ok false), r) ∧ r.use k u = (.ok false, r) := by
  refine ⟨by rw [enter, channel?_eq_none hl hphase], ?_⟩
  cases u with
  | send m => exact send_of_ne_connected hl hphase m
  | receive => rw [use, receive_of_ne_connected hl hphase]; rfl
  | request m => rw [use, request_of_ne_connected hl hphase]; rfl

/-- How a use can begin, on a link that owns a transport while it is connected. -/
theorem enter_cases (hl : r.link? k = some l) (howns : l.phase = .connected → l.transport.isSome = true) (u : Use) :
    l.phase ≠ .connected ∧ r.enter k u = (.returned (.ok false), r) ∨
      l.phase = .connected ∧
        ((∃ id bytes, u.line = .ok bytes ∧ r.enter k u = (.given id bytes, r)) ∨
          (∃ error, u.line = .error error ∧ r.enter k u = (.unwritten, r.report (.link (.notEncoded error)))) ∨
          ∃ error, u.line = .error error ∧ r.enter k u = (.returned (.error (.line error)), r)) := by
  by_cases hphase : l.phase = .connected
  · obtain ⟨id, hid⟩ := Option.isSome_iff_exists.mp (howns hphase)
    have hchannel : (r.link? k).bind Link.channel? = some id := by simp [hl, Link.channel?, hphase, hid]
    refine .inr ⟨hphase, ?_⟩
    cases hline : u.line with
    | ok bytes => exact .inl ⟨id, bytes, rfl, by simp [enter, hchannel, hline]⟩
    | error error =>
        cases hmalformed : error.isMalformed with
        | true => exact .inr (.inl ⟨error, rfl, by simp [enter, hchannel, hline, hmalformed]⟩)
        | false => exact .inr (.inr ⟨error, rfl, by simp [enter, hchannel, hline, hmalformed]⟩)
  · exact .inl ⟨hphase, (enter_of_ne_connected hl hphase u).1⟩

/-- A request that has been given a transport makes its exchange, whatever comes back. -/
theorem snd_proceed_request (r : Rig σ τ) (k : Nat) (m : Message) (id : Nat) (bytes : List UInt8) :
    (r.proceed k (.request m) (.given id bytes)).2 = (r.via fun o => Carrier.exchange o id bytes).2 := by
  simp only [proceed]
  rcases r.via fun o => Carrier.exchange o id bytes with ⟨fault | line, r₁⟩ <;> rfl

/-- Of all stages only one calls the transport; what the others do is to count. -/
theorem proceed_counts (r : Rig σ τ) (k : Nat) (u : Use) {stage : Use.Stage}
    (hstage : ∀ id bytes, stage ≠ .given id bytes) :
    (r.proceed k u stage).2 = r ∨
      ∃ operation, Link.CountsMessages operation ∧ (r.proceed k u stage).2 = r.change k operation := by
  cases stage with
  | unwritten => exact .inr ⟨_, Link.countsMessages_countFailed, rfl⟩
  | given id bytes => exact absurd rfl (hstage id bytes)
  | tried m delivered => exact .inr ⟨_, Link.countsMessages_sent m delivered, rfl⟩
  | exchanged line =>
      cases line with
      | none => exact .inl rfl
      | some line => exact .inr ⟨_, Link.countsMessages_countSent, rfl⟩
  | received line => exact .inr ⟨_, Link.countsMessages_accept line, accept_eq_change r k line⟩
  | returned result => exact .inl rfl

namespace Messaging

variable {P : Rig σ τ → Prop}

theorem enter (hparts : Messaging k P) (h : P r) (u : Use) : P (r.enter k u).2 := by
  unfold Rig.enter
  split
  · exact h
  · split
    · exact h
    · split
      · exact hparts.report _ h
      · exact h

theorem proceed (hparts : Messaging k P) (h : P r) (u : Use) (stage : Use.Stage) : P (r.proceed k u stage).2 := by
  cases stage with
  | unwritten => exact hparts.countFailed h
  | given id bytes =>
      cases u with
      | send m => exact hparts.sending id bytes h
      | receive => exact hparts.receiving id h
      | request m =>
          rw [snd_proceed_request]
          exact hparts.exchanging id bytes h
  | tried m delivered => exact hparts.sent m delivered h
  | exchanged line =>
      cases line with
      | none => exact h
      | some line => exact hparts.countSent h
  | received line => exact hparts.accept line h
  | returned result => exact h

theorem use (hparts : Messaging k P) (h : P r) (u : Use) : P (r.use k u).2 := by
  cases u with
  | send m => exact hparts.send h m
  | receive => exact hparts.receive h
  | request m => exact hparts.request h m

end Messaging

end

/-- Replacing a link and doing what one can ask for keep a property. -/
structure Performing [Carrier σ τ] (P : Rig σ τ → Prop) : Prop where
  setLink {r : Rig σ τ} (k : Nat) (l : Link τ) (h : P r) : P (r.setLink k l)
  report {r : Rig σ τ} (n : LinkNotice τ) (h : P r) : P (r.report (.link n))
  releasing {r : Rig σ τ} (id : Nat) (h : P r) : P (r.via fun o => ((), Carrier.disconnect o id)).2
  probing {r : Rig σ τ} (id : Nat) (h : P r) : P (r.via fun o => Carrier.probe o id).2

namespace Performing

variable [Carrier σ τ] {P : Rig σ τ → Prop}

theorem perform (hparts : Performing P) (h : P r) (actions : List (LinkAction τ)) : P (r.perform actions) := by
  induction actions generalizing r with
  | nil => exact h
  | cons action actions ih =>
      have hfirst : P (r.perform [action]) := by
        cases action with
        | release id => exact hparts.releasing id h
        | report n => exact hparts.report n h
      exact ih hfirst

theorem change (hparts : Performing P) (h : P r) (k : Nat) (operation : Link τ → Link τ × List (LinkAction τ)) :
    P (r.change k operation) := by
  unfold Rig.change
  split
  · exact h
  · exact hparts.perform (hparts.setLink k _ h) _

theorem conclude [Mul τ] [LT τ] [DecidableLT τ] (hparts : Performing P) (h : P r) (k : Nat) (a : Attempt) (id : Nat)
    (up : Bool) : P (r.conclude k a id up).2 := by
  unfold Rig.conclude
  split
  · exact h
  · exact hparts.perform (hparts.setLink k _ h) _

theorem look [Zero τ] [Sub τ] [LE τ] [DecidableLE τ] [LT τ] [DecidableLT τ] (hparts : Performing P) (h : P r)
    (k : Nat) : P (r.look k).2 := by
  unfold Rig.look
  split
  · exact h
  · rename_i l _
    dsimp only
    split
    · exact hparts.perform (hparts.setLink k _ (hparts.probing _ h)) _
    · exact hparts.perform (hparts.setLink k _ h) _

/-- With the calls that sending and receiving make, whatever they do keeps the property. -/
theorem messaging (hparts : Performing P) (k : Nat)
    (hsending : ∀ r id bytes, P r → P (r.via fun o => Carrier.send o id bytes).2)
    (hreceiving : ∀ r id, P r → P (r.via fun o => Carrier.receive o id).2)
    (hexchanging : ∀ r id bytes, P r → P (r.via fun o => Carrier.exchange o id bytes).2) : Messaging k P where
  report n h := hparts.report n h
  sending id bytes h := hsending _ id bytes h
  receiving id h := hreceiving _ id h
  exchanging id bytes h := hexchanging _ id bytes h
  sent m delivered h := hparts.change h k _
  countSent h := hparts.change h k _
  countFailed h := hparts.change h k _
  accept line h := by
    rw [accept_eq_change]
    exact hparts.change h k _

end Performing

/-- Two rigs are alike but for the outside, the journal, and what link `k` has counted of its messages. -/
structure Alike (k : Nat) (r r' : Rig σ τ) : Prop where
  station : ∀ s, r.stations[k]? = some s → ∃ counters : Counters,
    counters.attempts = s.link.counters.attempts ∧ counters.reconnects = s.link.counters.reconnects ∧
      r'.stations[k]? = some { s with link := { s.link with counters } }
  others : ∀ j, j ≠ k → r'.stations[j]? = r.stations[j]?
  size : r'.stations.size = r.stations.size
  clients : r'.clients = r.clients
  freshClient : r'.freshClient = r.freshClient
  callbackFault : r'.callbackFault = r.callbackFault
  bridge : r'.bridge = r.bridge

namespace Alike

variable {r'' : Rig σ τ}

theorem of_stations (hstations : r'.stations = r.stations) (hclients : r'.clients = r.clients)
    (hfresh : r'.freshClient = r.freshClient) (hfault : r'.callbackFault = r.callbackFault)
    (hbridge : r'.bridge = r.bridge) : Alike k r r' where
  station s hs := ⟨s.link.counters, rfl, rfl, by rw [hstations, hs]⟩
  others j _ := by rw [hstations]
  size := by rw [hstations]
  clients := hclients
  freshClient := hfresh
  callbackFault := hfault
  bridge := hbridge

theorem refl (k : Nat) (r : Rig σ τ) : Alike k r r := of_stations rfl rfl rfl rfl rfl

theorem trans (h : Alike k r r') (h' : Alike k r' r'') : Alike k r r'' where
  station s hs := by
    obtain ⟨counters, hattempts, hreconnects, hs'⟩ := h.station s hs
    obtain ⟨counters', hattempts', hreconnects', hs''⟩ := h'.station _ hs'
    exact ⟨counters', hattempts'.trans hattempts, hreconnects'.trans hreconnects, hs''⟩
  others j hj := (h'.others j hj).trans (h.others j hj)
  size := h'.size.trans h.size
  clients := h'.clients.trans h.clients
  freshClient := h'.freshClient.trans h.freshClient
  callbackFault := h'.callbackFault.trans h.callbackFault
  bridge := h'.bridge.trans h.bridge

theorem setLink (hl : r.link? k = some l) {counters : Counters}
    (hattempts : counters.attempts = l.counters.attempts)
    (hreconnects : counters.reconnects = l.counters.reconnects) :
    Alike k r (r.setLink k { l with counters }) where
  station s hs := by
    obtain rfl : s.link = l := by simpa [link?, hs] using hl
    exact ⟨counters, hattempts, hreconnects, by simp [Rig.setLink, Array.getElem?_modify, hs]⟩
  others j hj := by simp [Rig.setLink, Array.getElem?_modify, Ne.symm hj]
  size := by simp [Rig.setLink]
  clients := rfl
  freshClient := rfl
  callbackFault := rfl
  bridge := rfl

section

variable [Carrier σ τ]

theorem via {α : Type} (r : Rig σ τ) (call : σ → α × σ) : Alike k r (r.via call).2 :=
  of_stations rfl rfl rfl rfl rfl

theorem perform (r : Rig σ τ) (actions : List (LinkAction τ)) : Alike k r (r.perform actions) := by
  induction actions generalizing r with
  | nil => exact refl k r
  | cons action actions ih =>
      have hfirst : Alike k r (r.perform [action]) := by
        cases action <;> exact of_stations rfl rfl rfl rfl rfl
      exact hfirst.trans (ih _)

theorem change {operation : Link τ → Link τ × List (LinkAction τ)} (hcounts : Link.CountsMessages operation)
    (r : Rig σ τ) (k : Nat) : Alike k r (r.change k operation) := by
  cases hl : r.link? k with
  | none => rw [Rig.change, hl]; exact refl k r
  | some l =>
      obtain ⟨⟨⟨counters, heq⟩, -⟩, hattempts, hreconnects⟩ := hcounts l
      rw [heq] at hattempts hreconnects
      rw [change_eq hl, heq]
      exact (setLink hl hattempts hreconnects).trans (perform _ _)

/-- Whatever sending and receiving do, they keep a rig alike to what it was. -/
theorem messaging (r : Rig σ τ) (k : Nat) : Messaging k (Alike k r) where
  report n h := h.trans (of_stations rfl rfl rfl rfl rfl)
  sending _ _ h := h.trans (via _ _)
  receiving _ h := h.trans (via _ _)
  exchanging _ _ h := h.trans (via _ _)
  sent m delivered h := h.trans (change (Link.countsMessages_sent m delivered) _ k)
  countSent h := h.trans (change Link.countsMessages_countSent _ k)
  countFailed h := h.trans (change Link.countsMessages_countFailed _ k)
  accept line h := by
    rw [accept_eq_change]
    exact h.trans (change (Link.countsMessages_accept line) _ k)

end

end Alike

section

variable [Carrier σ τ]

theorem outside_change {operation : Link τ → Link τ × List (LinkAction τ)}
    (hcounts : Link.CountsMessages operation) (r : Rig σ τ) (k : Nat) :
    (r.change k operation).outside = r.outside := by
  cases hl : r.link? k with
  | none => rw [change, hl]
  | some l => exact (Booked.change hl operation (hcounts l).1).outside

theorem outside_proceed (r : Rig σ τ) (k : Nat) (u : Use) {stage : Use.Stage}
    (hstage : ∀ id bytes, stage ≠ .given id bytes) : (r.proceed k u stage).2.outside = r.outside := by
  rcases r.proceed_counts k u hstage with heq | ⟨operation, hcounts, heq⟩
  · rw [heq]
  · rw [heq, outside_change hcounts]

end

end Rig

end PeripheralLink

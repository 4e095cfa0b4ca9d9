import PeripheralLink.Proofs.Rig.Course
import PeripheralLink.Proofs.Rig.Dialogue
import PeripheralLink.Proofs.Rig.Recovery
/-!
A connection that breaks while the link is connected.  The transport closes itself as soon as sending
fails, receiving fails or the peer's end is read, and by nothing else (`Use.run_closes_iff`); the link does
not look at that.  It goes on being connected, over a transport on which every use fails and touches
nothing, until its health is due, and loses the connection then (`Forward.notices`).
-/

namespace PeripheralLink

/-- The reading has found the connection broken. -/
def Socket.LineEnd.IsBroken : Socket.LineEnd → Prop
  | closed => True
  | failed _ => True
  | _ => False

instance : DecidablePred Socket.LineEnd.IsBroken
  | .line _ => inferInstanceAs (Decidable False)
  | .expired => inferInstanceAs (Decidable False)
  | .overflow => inferInstanceAs (Decidable False)
  | .closed => inferInstanceAs (Decidable True)
  | .failed _ => inferInstanceAs (Decidable True)

/-- A use of a connected link. -/
inductive Use
  | send (m : Message)
  | receive
  | request (m : Message)

/-- The message that the use sends, if any, can be written. -/
def Use.Writes : Use → Prop
  | send m => ∃ bytes, m.lineBytes = .ok bytes
  | receive => True
  | request m => ∃ bytes, m.lineBytes = .ok bytes

section

variable {τ : Type} [Zero τ] [Add τ] [Sub τ] [LE τ] [DecidableLE τ]

def Tcp.reading (t : Tcp τ) (n : Network τ) (socket : Nat) : Socket.LineEnd :=
  ((n.socket socket).readLine t.lineLimit.value (n.clock + t.ioTimeout) (n.socket socket).readRounds
    n.clock t.buffer).1

/-- What a use makes of the transport, and whether it does its part. -/
def Use.run (u : Use) (t : Tcp τ) (n : Network τ) : Bool × Tcp τ × Network τ :=
  match u with
  | send m =>
    match m.lineBytes with
    | .ok bytes => t.send n bytes
    | .error _ => (false, t, n)
  | receive => ((t.receive n).1.isSome, (t.receive n).2)
  | request m =>
    match m.lineBytes with
    | .ok bytes => ((t.exchange n bytes).1.isSome, (t.exchange n bytes).2)
    | .error _ => (false, t, n)

/-- The use breaks the connection: not all bytes are sent, or reading the line that is awaited finds
the connection broken. -/
def Use.Breaks (t : Tcp τ) (n : Network τ) (socket : Nat) : Use → Prop
  | send m => ∃ bytes, m.lineBytes = .ok bytes ∧ (t.send n bytes).1 = false
  | receive => (t.reading n socket).IsBroken
  | request m => ∃ bytes, m.lineBytes = .ok bytes ∧
      ((t.send n bytes).1 = false ∨ (t.reading (t.send n bytes).2.2 socket).IsBroken)

variable {t : Tcp τ} {n : Network τ} {socket : Nat}

theorem Tcp.send_closes_iff (hopen : t.open? = some socket) (bytes : List UInt8) :
    (t.send n bytes).2.1.open? = none ↔ (t.send n bytes).1 = false := by
  rcases hsend : t.send n bytes with ⟨_ | _, t₁, n₁⟩
  · obtain ⟨-, rfl, -⟩ := Tcp.send_spec hopen hsend
    exact iff_of_true rfl rfl
  · obtain ⟨-, rfl, -⟩ := Tcp.send_spec hopen hsend
    simp [hopen]

theorem Tcp.receive_closes_iff (hopen : t.open? = some socket) :
    (t.receive n).2.1.open? = none ↔ (t.reading n socket).IsBroken := by
  simp only [receive, reading, hopen]
  rcases (n.socket socket).readLine t.lineLimit.value (n.clock + t.ioTimeout)
    (n.socket socket).readRounds n.clock t.buffer with ⟨result, s, clock, buffer⟩
  have hkept : ({ t with buffer } : Tcp τ).open? = some socket := hopen
  have hdropped (n : Network τ) (reason : TransportNotice) :
      (({ t with buffer } : Tcp τ).drop n reason).1.open? = none := by
    rw [drop, (release_spec _ _).idle]
    rfl
  cases result with
  | closed => simp [Socket.LineEnd.IsBroken, hdropped]
  | failed text => simp [Socket.LineEnd.IsBroken, hdropped]
  | _ => simp [Socket.LineEnd.IsBroken, hkept]

/-- An open transport is closed by a use exactly when the use breaks the connection. -/
theorem Use.run_closes_iff (hopen : t.open? = some socket) (u : Use) :
    (u.run t n).2.1.open? = none ↔ u.Breaks t n socket := by
  cases u with
  | receive => exact Tcp.receive_closes_iff hopen
  | send m =>
      cases hbytes : m.lineBytes with
      | error e => simp [run, Breaks, hbytes, hopen]
      | ok bytes => simpa [run, Breaks, hbytes] using Tcp.send_closes_iff hopen bytes
  | request m =>
      cases hbytes : m.lineBytes with
      | error e => simp [run, Breaks, hbytes, hopen]
      | ok bytes =>
          simp only [run, Breaks, hbytes, Except.ok.injEq, exists_eq_left', Tcp.exchange]
          rcases hsend : t.send n bytes with ⟨_ | _, t₁, n₁⟩
          · obtain ⟨-, rfl, -⟩ := Tcp.send_spec hopen hsend
            exact iff_of_true rfl (.inl rfl)
          · obtain ⟨-, rfl, -⟩ := Tcp.send_spec hopen hsend
            simpa using Tcp.receive_closes_iff hopen

/-- A use of a closed transport does not do its part and touches nothing. -/
theorem Use.run_of_closed (hclosed : t.open? = none) (u : Use) : u.run t n = (false, t, n) := by
  cases u with
  | receive => simp [run, Tcp.receive, hclosed]
  | send m => cases hbytes : m.lineBytes <;> simp [run, hbytes, Tcp.send, hclosed]
  | request m => cases hbytes : m.lineBytes <;> simp [run, hbytes, Tcp.exchange, Tcp.send, hclosed]

end

/-- What an operation comes to that only counts and reports. -/
structure Link.Counts {τ : Type} (l : Link τ) (result : Link τ × List (LinkAction τ)) : Prop where
  counters : ∃ counters, result.1 = { l with counters }
  reports : ∃ reports : List (LinkNotice τ), result.2 = reports.map .report

theorem Link.counts_sent {τ : Type} (l : Link τ) (m : Message) (delivered : Bool) :
    l.Counts (l.sent m delivered) := by
  cases delivered with
  | true => exact ⟨⟨_, rfl⟩, [], rfl⟩
  | false => exact ⟨⟨_, rfl⟩, [.notSent m], rfl⟩

theorem Link.counts_accept {τ : Type} (l : Link τ) (line : Option (List UInt8)) :
    l.Counts (l.accept line).2 := by
  unfold accept
  split
  · exact ⟨⟨_, rfl⟩, [], rfl⟩
  · split
    · exact ⟨⟨_, rfl⟩, [], rfl⟩
    · exact ⟨⟨_, rfl⟩, [_], rfl⟩
    · exact ⟨⟨l.counters, rfl⟩, [], rfl⟩

namespace Rig

/-- Something has been counted for link `k` and reported, and nothing else has happened. -/
structure Booked {σ τ : Type} (k : Nat) (r r' : Rig σ τ) : Prop where
  outside : r'.outside = r.outside
  adds : ∃ reports : List (Report τ), r'.journal.toList = r.journal.toList ++ reports.map .report
  link : ∀ l, r.link? k = some l → ∃ counters, r'.link? k = some { l with counters }
  sink : r'.sink? k = r.sink? k

namespace Booked

variable {σ τ : Type} {k : Nat} {r r' r'' : Rig σ τ}

theorem refl (k : Nat) (r : Rig σ τ) : Booked k r r where
  outside := rfl
  adds := ⟨[], (List.append_nil _).symm⟩
  link l hl := ⟨l.counters, hl⟩
  sink := rfl

theorem trans (h : Booked k r r') (h' : Booked k r' r'') : Booked k r r'' where
  outside := h'.outside.trans h.outside
  adds := by
    obtain ⟨reports, hadds⟩ := h.adds
    obtain ⟨reports', hadds'⟩ := h'.adds
    exact ⟨reports ++ reports', by rw [hadds', hadds, List.append_assoc, List.map_append]⟩
  link l hl := by
    obtain ⟨_, hl'⟩ := h.link l hl
    obtain ⟨counters, hl''⟩ := h'.link _ hl'
    exact ⟨counters, hl''⟩
  sink := h'.sink.trans h.sink

theorem report (k : Nat) (r : Rig σ τ) (n : Report τ) : Booked k r (r.report n) where
  outside := rfl
  adds := ⟨[n], Array.toList_push⟩
  link l hl := ⟨l.counters, hl⟩
  sink := rfl

theorem setLink {l : Link τ} (hl : r.link? k = some l) (counters : Counters) :
    Booked k r (r.setLink k { l with counters }) where
  outside := rfl
  adds := ⟨[], (List.append_nil _).symm⟩
  link l' hl' := by
    obtain rfl := Option.some.inj (hl.symm.trans hl')
    exact ⟨counters, link?_setLink hl _⟩
  sink := sink?_setLink r k _

variable [Carrier σ τ]

theorem perform (k : Nat) (r : Rig σ τ) (reports : List (LinkNotice τ)) :
    Booked k r (r.perform (reports.map .report)) := by
  induction reports generalizing r with
  | nil => exact refl k r
  | cons n reports ih => exact (report k r (.link n)).trans (ih (r.report (.link n)))

theorem change {l : Link τ} (hl : r.link? k = some l) (operation : Link τ → Link τ × List (LinkAction τ))
    (h : l.Counts (operation l)) : Booked k r (r.change k operation) := by
  obtain ⟨counters, hcounters⟩ := h.counters
  obtain ⟨reports, hreports⟩ := h.reports
  rw [change_eq hl, hcounters, hreports]
  exact (setLink hl counters).trans (perform k _ reports)

theorem accept {l : Link τ} (hl : r.link? k = some l) (line : Option (List UInt8)) :
    Booked k r (r.accept k line).2 := by
  rw [accept_eq_change]
  exact change hl _ (l.counts_accept line)

end Booked

/-- What using link `k` comes to, and whether it has succeeded. -/
def use {σ τ : Type} [Carrier σ τ] (r : Rig σ τ) (k : Nat) : Use → Except Fault Bool × Rig σ τ
  | .send m => r.send k m
  | .receive => ((r.receive k).1.map Option.isSome, (r.receive k).2)
  | .request m => ((r.request k m).1.map Option.isSome, (r.request k m).2)

section

variable {τ : Type}

def lan (r : Rig (Traced (Lan τ)) τ) : Lan τ := r.outside.outside

theorem Booked.lan_eq {k : Nat} {r r' : Rig (Traced (Lan τ)) τ} (h : Booked k r r') : r'.lan = r.lan :=
  congrArg Traced.outside h.outside

/-- Booking sends nothing. -/
theorem Booked.accepted {k : Nat} {r r' : Rig (Traced (Lan τ)) τ} (h : Booked k r r') (socket : Nat) :
    r'.forget.accepted socket = r.forget.accepted socket := by
  obtain ⟨reports, hadds⟩ := h.adds
  have hjournal : r'.forget.journal.toList = r.forget.journal.toList ++ reports.map .report := hadds
  have houtside : r'.forget.outside = r.forget.outside := congrArg Traced.outside h.outside
  have hnone : (reports.map Entry.report).flatMap (Entry.accepted socket) = [] := by
    simp [Entry.accepted]
  simp only [Rig.accepted, hjournal, houtside, List.flatMap_append, hnone, List.append_nil]

/-- Transport `id` has been run, and so it and the network stand now. -/
structure Ran (id : Nat) (r : Rig (Traced (Lan τ)) τ) (after : Tcp τ × Network τ)
    (r' : Rig (Traced (Lan τ)) τ) : Prop where
  stations : r'.stations = r.stations
  transport : r'.lan.transports[id]? = some after.1
  sockets : r'.lan.net.sockets = after.2.sockets
  clock : r'.lan.net.clock = after.2.clock
  accepted : ∀ entries, r.lan.net.Adds after.2 entries → ∀ socket,
    r'.forget.accepted socket = r.forget.accepted socket ++ entries.flatMap (WireEntry.accepted socket)

theorem Ran.refl {id : Nat} {r : Rig (Traced (Lan τ)) τ} {t : Tcp τ}
    (ht : r.lan.transports[id]? = some t) : Ran id r (t, r.lan.net) r where
  stations := rfl
  transport := ht
  sockets := rfl
  clock := rfl
  accepted entries hadds socket := by
    have hnone : r.lan.net.journal.toList = r.lan.net.journal.toList ++ entries := hadds
    rw [List.self_eq_append_right.mp hnone]
    exact (List.append_nil _).symm

variable [Zero τ] [Add τ] [Sub τ] [LE τ] [DecidableLE τ]

theorem Ran.via {id : Nat} {r : Rig (Traced (Lan τ)) τ} {t : Tcp τ}
    (ht : r.lan.transports[id]? = some t) {α : Type} {call : Traced (Lan τ) → α × Traced (Lan τ)}
    {call' : Lan τ → α × Lan τ} {default : α} {run : Tcp τ → Network τ → α × Tcp τ × Network τ}
    (hforget : forgetting (r.via call) = r.forget.via call')
    (hrun : call' r.lan = r.lan.via id default run) :
    (r.via call).1 = (run t r.lan.net).1 ∧ Ran id r (run t r.lan.net).2 (r.via call).2 := by
  have hcall : call' r.lan = ((run t r.lan.net).1,
      ⟨(run t r.lan.net).2.2, r.lan.transports.setIfInBounds id (run t r.lan.net).2.1⟩) := by
    rw [hrun, Lan.via, ht]
  have hnet : (r.via call).2.lan.net = { (call' r.lan).2.net with journal := #[] } :=
    congrArg (·.2.outside.net) hforget
  rw [hcall] at hnet
  obtain ⟨hresult, htransport, -, haccepted⟩ := via_of_run (r := r.forget) ht hcall hforget.symm
  exact ⟨hresult, stations_via r call, htransport, by rw [hnet], by rw [hnet],
    fun entries hadds socket => haccepted socket entries hadds⟩

section Calls

variable {id : Nat} {r : Rig (Traced (Lan τ)) τ} {t : Tcp τ} (ht : r.lan.transports[id]? = some t)
include ht

theorem ran_send (bytes : List UInt8) :
    (r.via fun o => Carrier.send o id bytes).1 = (t.send r.lan.net bytes).1 ∧
      Ran id r (t.send r.lan.net bytes).2 (r.via fun o => Carrier.send o id bytes).2 := by
  have hforget : forgetting (r.via fun o => Carrier.send o id bytes) =
      r.forget.via fun lan => Carrier.send lan id bytes := rfl
  have hrun : Carrier.send r.lan id bytes = r.lan.via id false fun t n => t.send n bytes := rfl
  exact Ran.via ht hforget hrun

theorem ran_receive :
    (r.via fun o => Carrier.receive o id).1 = (t.receive r.lan.net).1 ∧
      Ran id r (t.receive r.lan.net).2 (r.via fun o => Carrier.receive o id).2 := by
  have hforget : forgetting (r.via fun o => Carrier.receive o id) =
      r.forget.via fun lan => Carrier.receive lan id := rfl
  have hrun : Carrier.receive r.lan id = r.lan.via id none Tcp.receive := rfl
  exact Ran.via ht hforget hrun

theorem ran_exchange (bytes : List UInt8) :
    (r.via fun o => Carrier.exchange o id bytes).1 = .ok (t.exchange r.lan.net bytes).1 ∧
      Ran id r (t.exchange r.lan.net bytes).2 (r.via fun o => Carrier.exchange o id bytes).2 := by
  have hforget : forgetting (r.via fun o => Carrier.exchange o id bytes) =
      r.forget.via fun lan => Carrier.exchange lan id bytes := rfl
  have hrun : Carrier.exchange r.lan id bytes = r.lan.via id (.ok none) fun t n =>
      (.ok (t.exchange n bytes).1, (t.exchange n bytes).2) := by
    simp only [Carrier.exchange, Lan.via, ht]
  exact Ran.via ht hforget hrun

/-- A use of a connected link runs its transport, and the rest of it is booking. -/
theorem use_ran {k : Nat} {l : Link τ} (hl : r.link? k = some l) (hchannel : l.channel? = some id)
    (u : Use) :
    ∃ r₁, Ran id r (u.run t r.lan.net).2 r₁ ∧ Booked k r₁ (r.use k u).2 ∧
      ((u.run t r.lan.net).1 = false →
        (r.use k u).1 ≠ .ok true ∧ (u.Writes → (r.use k u).1 = .ok false)) := by
  have hbound : (r.link? k).bind Link.channel? = some id := by rw [hl, Option.bind_some, hchannel]
  have hkept {α : Type} (call : Traced (Lan τ) → α × Traced (Lan τ)) : (r.via call).2.link? k = some l :=
    (link?_of_stations (stations_via r call) k).trans hl
  -- a message that cannot be written leaves the transport alone
  have hunwritten (e : FrameError) :
      Booked k r ((r.report (.link (.notEncoded e))).change k fun l => (l.countFailed, [])) := by
    have hreported : (r.report (.link (.notEncoded e))).link? k = some l := hl
    exact (Booked.report k r _).trans (.change hreported _ ⟨⟨_, rfl⟩, [], rfl⟩)
  -- when nothing was received, there is nothing to read
  have hnothing {r₁ : Rig (Traced (Lan τ)) τ} (hl₁ : r₁.link? k = some l) :
      (r₁.accept k none).1 = .ok none := by rw [accept, hl₁]; rfl
  cases u with
  | send m =>
      simp only [use, send, hbound, Use.run, Use.Writes]
      cases hbytes : m.lineBytes with
      | error e =>
          refine ⟨r, .refl ht, ?_⟩
          dsimp only
          split
          · exact ⟨hunwritten e, fun _ => ⟨by rintro ⟨⟩, fun _ => rfl⟩⟩
          · exact ⟨.refl k r, fun _ => ⟨by rintro ⟨⟩, by rintro ⟨_, ⟨⟩⟩⟩⟩
      | ok bytes =>
          obtain ⟨hresult, hran⟩ := ran_send ht bytes
          refine ⟨_, hran, .change (hkept _) _ (l.counts_sent m _), ?_⟩
          intro hfailed
          dsimp only
          rw [hresult, hfailed]
          exact ⟨by rintro ⟨⟩, fun _ => rfl⟩
  | receive =>
      simp only [use, receive, hbound, Use.run, Use.Writes]
      obtain ⟨hresult, hran⟩ := ran_receive ht
      refine ⟨_, hran, .accept (hkept _) _, ?_⟩
      intro hfailed
      rw [Option.isSome_eq_false_iff, Option.isNone_iff_eq_none] at hfailed
      rw [hresult, hfailed, hnothing (hkept _)]
      exact ⟨by rintro ⟨⟩, fun _ => rfl⟩
  | request m =>
      simp only [use, request, hbound, Use.run, Use.Writes]
      cases hbytes : m.lineBytes with
      | error e =>
          refine ⟨r, .refl ht, ?_⟩
          dsimp only
          split
          · exact ⟨hunwritten e, fun _ => ⟨by rintro ⟨⟩, fun _ => rfl⟩⟩
          · exact ⟨.refl k r, fun _ => ⟨by rintro ⟨⟩, by rintro ⟨_, ⟨⟩⟩⟩⟩
      | ok bytes =>
          obtain ⟨hresult, hran⟩ := ran_exchange ht bytes
          have hl₁ := hkept fun o => Carrier.exchange o id bytes
          rcases hexchange : r.via fun o => Carrier.exchange o id bytes with ⟨result, r₁⟩
          rw [hexchange] at hresult hran hl₁
          dsimp only at hresult hran hl₁
          subst hresult
          refine ⟨r₁, hran, ?_⟩
          simp only [hexchange]
          cases hline : (t.exchange r.lan.net bytes).1 with
          | none =>
              simp only [Option.isSome_none, Bool.false_eq_true, ↓reduceIte, hnothing hl₁]
              exact ⟨.accept hl₁ _, fun _ => ⟨by rintro ⟨⟩, fun _ => rfl⟩⟩
          | some line =>
              simp only [Option.isSome_some, ↓reduceIte]
              have hcounted : Booked k r₁ (r₁.change k fun l => (l.countSent, [])) :=
                .change hl₁ _ ⟨⟨_, rfl⟩, [], rfl⟩
              obtain ⟨counters, hl₂⟩ := hcounted.link l hl₁
              exact ⟨hcounted.trans (.accept hl₂ _), by simp⟩

end Calls

end

section

variable {σ τ : Type} [Carrier σ τ] [Zero τ] [Sub τ] [LE τ] [DecidableLE τ] [LT τ] [DecidableLT τ]
  {k id : Nat} {l : Link τ}

/-- As long as its health is not due, an update of a connected link looks after its status line and leaves
the outside alone. -/
theorem look_of_not_due {r : Rig σ τ} (hl : r.link? k = some l) (hsound : l.Sound [])
    (hconnected : l.phase = .connected) (hwait : l.health.isDue r.now = false) :
    ∃ r' status, r.look k = (.quiet, r') ∧ r'.outside = r.outside ∧
      r'.link? k = some { l with status } ∧ r'.sink? k = r.sink? k := by
  have hidle := hsound.not_attempting
  have henabled := (hsound.enabled_of_ne_disabled (by simp [hconnected])).1
  have hprobe : l.probe? r.now = none := by simp [hsound.probe?_eq hidle, hwait]
  have hadvance : l.advance r.now true = (l, [], .quiet) := by
    simp [Link.advance, hconnected, henabled, hwait]
  obtain ⟨status, reports, hpoll⟩ := Link.poll_of_idle hidle r.now true
  rw [hadvance, List.nil_append] at hpoll
  have hlook : r.look k =
      (.quiet, (r.setLink k { l with status }).perform (reports.map .report)) := by
    simp only [Rig.look, hl, hprobe, hpoll]
  exact ⟨_, status, hlook, outside_reports _ reports, (link?_perform _ _ _).trans (link?_setLink hl _),
    (sink?_of_stations (stations_perform _ _) k).trans (sink?_setLink r k _)⟩

/-- An update that finds the health of a connected link due and its peer dead loses the connection. -/
theorem look_of_dead {r : Rig (Traced σ) τ} (hl : r.link? k = some l) (hsound : l.Sound [])
    (hconnected : l.phase = .connected) (howns : l.transport = some id)
    (hdue : l.health.isDue r.now = true) (hdead : (r.via fun o => Carrier.probe o id).1 = false) :
    ∃ r' status, r.look k = (.edge .disconnected, r') ∧
      r.Does k l [.probe id false, .disconnect id]
        { l with
          phase := .reconnecting
          enteredAt := r.now
          transport := none
          health := { l.health with begunAt := r.now }
          status } r' := by
  have hidle := hsound.not_attempting
  have henabled := (hsound.enabled_of_ne_disabled (by simp [hconnected])).1
  have hprobe : l.probe? r.now = some id := by simp [hsound.probe?_eq hidle, hconnected, hdue, howns]
  have hadvance : l.advance r.now false =
      ({ l with
          phase := .reconnecting
          enteredAt := r.now
          transport := none
          health := { l.health with begunAt := r.now } },
        [.report .connectionLost, .release id, .report (.moved .connected .reconnecting)],
        .edge .disconnected) := by
    simp [Link.advance, hconnected, henabled, hdue, Link.leave, Link.giveUp, Link.enter, howns,
      IntervalClock.mark]
  obtain ⟨status, reports, hpoll⟩ := Link.poll_of_idle hidle r.now false
  rw [hadvance] at hpoll
  have hprobed := (Does.none hl).via (fun o => Carrier.probe o id) _ (calls_probe r id)
  rw [hdead] at hprobed
  have hlook : r.look k = ((l.poll r.now false).2.2,
      ((r.via fun o => Carrier.probe o id).2.setLink k (l.poll r.now false).1).perform
        (l.poll r.now false).2.1) := by
    simp only [Rig.look, hl, hprobe, hdead]
  have hdone := hprobed.change rfl (l.poll r.now false).1 (l.poll r.now false).2.1
  rw [hpoll] at hlook hdone
  rw [List.flatMap_append, calls_reports, List.append_nil] at hdone
  exact ⟨_, status, hlook, hdone⟩

end

section

variable {τ : Type} [Zero τ] [Add τ] [Sub τ] [Mul τ] [LE τ] [DecidableLE τ] [LT τ] [DecidableLT τ]

/-- Link `k` is connected through transport `id`, which is `t`, with this health and this sink. -/
structure Over (k id : Nat) (health : IntervalClock τ) (sink : Sink) (t : Tcp τ)
    (r : Rig (Traced (Lan τ)) τ) : Prop where
  moment : Moment k r []
  link : ∃ l, r.link? k = some l ∧ l.phase = .connected ∧ l.transport = some id ∧ l.health = health
  sink_eq : r.sink? k = some sink
  transport : r.lan.transports[id]? = some t

/-- No byte has been read or sent, and no time has passed. -/
structure Untouched (r r' : Rig (Traced (Lan τ)) τ) : Prop where
  sockets : r'.lan.net.sockets = r.lan.net.sockets
  clock : r'.lan.net.clock = r.lan.net.clock
  accepted : ∀ socket, r'.forget.accepted socket = r.forget.accepted socket

namespace Over

variable {k id : Nat} {health : IntervalClock τ} {sink : Sink} {t : Tcp τ} {r : Rig (Traced (Lan τ)) τ}

/-- A use runs the transport, and the rest of it is booking. -/
theorem ran (h : Over k id health sink t r) (u : Use) :
    ∃ r₁, Ran id r (u.run t r.lan.net).2 r₁ ∧ Booked k r₁ (r.use k u).2 ∧
      ((u.run t r.lan.net).1 = false →
        (r.use k u).1 ≠ .ok true ∧ (u.Writes → (r.use k u).1 = .ok false)) := by
  obtain ⟨l, hl, hconnected, howns, -⟩ := h.link
  have hchannel : l.channel? = some id := by rw [Link.channel?, if_pos hconnected, howns]
  exact use_ran h.transport hl hchannel u

/-- A use leaves the link over its transport, which is what the use has made of it. -/
theorem use (h : Over k id health sink t r) (u : Use) :
    Over k id health sink (u.run t r.lan.net).2.1 (r.use k u).2 := by
  obtain ⟨l, hl, hconnected, howns, hhealth⟩ := h.link
  obtain ⟨r₁, hran, hbooked, -⟩ := h.ran u
  obtain ⟨counters, hl'⟩ := hbooked.link l ((link?_of_stations hran.stations k).trans hl)
  refine ⟨?_, ⟨_, hl', hconnected, howns, hhealth⟩, ?_, ?_⟩
  · cases u with
    | send m => exact Moment.messaging.send h.moment m
    | receive => exact Moment.messaging.receive h.moment
    | request m => exact Moment.messaging.request h.moment m
  · exact hbooked.sink.trans ((sink?_of_stations hran.stations k).trans h.sink_eq)
  · rw [hbooked.lan_eq]
    exact hran.transport

/-- Over a closed transport a use fails, and touches nothing. -/
theorem use_of_closed (h : Over k id health sink t r) (hclosed : t.open? = none) (u : Use) :
    (r.use k u).1 ≠ .ok true ∧ (u.Writes → (r.use k u).1 = .ok false) ∧ Untouched r (r.use k u).2 := by
  obtain ⟨r₁, hran, hbooked, hfails⟩ := h.ran u
  rw [Use.run_of_closed hclosed] at hran hfails
  obtain ⟨hnot, hwrites⟩ := hfails rfl
  refine ⟨hnot, hwrites, ?_, ?_, ?_⟩
  · rw [hbooked.lan_eq]
    exact hran.sockets
  · rw [hbooked.lan_eq]
    exact hran.clock
  · intro socket
    have hnone : r.lan.net.Adds r.lan.net [] := (List.append_nil _).symm
    rw [hbooked.accepted, hran.accepted [] hnone]
    exact List.append_nil _

/-- Before the health is due, an update leaves the link as it is and the outside alone. -/
theorem update_early (h : Over k id health sink t r) (hwait : health.isDue r.now = false)
    (window reaction : Rig (Traced (Lan τ)) τ → Rig (Traced (Lan τ)) τ) :
    (r.update k window reaction).1 = .ok () ∧ (r.update k window reaction).2.outside = r.outside ∧
      Over k id health sink t (r.update k window reaction).2 := by
  obtain ⟨l, hl, hconnected, howns, rfl⟩ := h.link
  have hsound := h.moment.sound_of_link hl
  obtain ⟨r', status, hlook, houtside, hafter, hsink⟩ := look_of_not_due hl hsound hconnected hwait
  have hupdate : r.update k window reaction = (.ok (), r') := by
    obtain ⟨s, hs, -⟩ := Option.map_eq_some_iff.mp h.sink_eq
    simp only [Rig.update, hs, hlook]
  have hmoment := h.moment.look
  rw [hlook] at hmoment
  have hlan : r'.lan = r.lan := congrArg Traced.outside houtside
  rw [hupdate]
  refine ⟨rfl, houtside, hmoment, ⟨_, hafter, hconnected, howns, rfl⟩, hsink.trans h.sink_eq, ?_⟩
  rw [hlan]
  exact h.transport

/-- Once the health is due, an update of a link over a closed transport loses the connection. -/
theorem update_due (h : Over k id health sink t r) (hclosed : t.open? = none)
    (hdue : health.isDue r.now = true) (window reaction : Rig (Traced (Lan τ)) τ → Rig (Traced (Lan τ)) τ) :
    ∃ l r' status, r.Does k l [.probe id false, .disconnect id]
        { l with
          phase := .reconnecting
          enteredAt := r.now
          transport := none
          health := { health with begunAt := r.now }
          status } r' ∧
      r.update k window reaction = (.ok (), r'.tell sink .disconnected reaction) := by
  obtain ⟨l, hl, hconnected, howns, rfl⟩ := h.link
  have hsound := h.moment.sound_of_link hl
  have hdead : (r.via fun o => Carrier.probe o id).1 = false := by
    have hprobe : (r.via fun o => Carrier.probe o id).1 = (r.lan.via id false Tcp.probe).1 := rfl
    rw [hprobe, Lan.via, h.transport]
    simp [Tcp.probe, hclosed]
  obtain ⟨r', status, hlook, hdoes⟩ := look_of_dead hl hsound hconnected howns hdue hdead
  refine ⟨l, r', status, hdoes, ?_⟩
  obtain ⟨s, hs, rfl⟩ := Option.map_eq_some_iff.mp h.sink_eq
  simp only [Rig.update, hs, hlook]

end Over

/-- What may happen to link `k` and its transport until the health is due: uses, updates that come before
that time, and whatever does not concern the two. -/
inductive Unnoticed (k id : Nat) (due : τ) (start : Rig (Traced (Lan τ)) τ) : Rig (Traced (Lan τ)) τ → Prop
  | here : Unnoticed k id due start start
  /-- Time passes, the peer sends, another link is called. -/
  | elsewhere {r r' : Rig (Traced (Lan τ)) τ} (h : Unnoticed k id due start r)
      (hstation : r'.stations[k]? = r.stations[k]?)
      (htransport : r'.lan.transports[id]? = r.lan.transports[id]?) : Unnoticed k id due start r'
  | use {r : Rig (Traced (Lan τ)) τ} (h : Unnoticed k id due start r) (u : Use) :
      Unnoticed k id due start (r.use k u).2
  | update {r : Rig (Traced (Lan τ)) τ} (h : Unnoticed k id due start r) (hearly : r.now < due)
      (window reaction : Rig (Traced (Lan τ)) τ → Rig (Traced (Lan τ)) τ) :
      Unnoticed k id due start (r.update k window reaction).2

end

section

variable {τ : Type} [Ring τ] [LinearOrder τ] [IsStrictOrderedRing τ]

theorem isDue_iff (health : IntervalClock τ) (now : τ) :
    health.isDue now = true ↔ health.begunAt + health.interval ≤ now := by
  rw [IntervalClock.isDue, decide_eq_true_iff, le_sub_iff_add_le']

theorem isDue_eq_false_iff (health : IntervalClock τ) (now : τ) :
    health.isDue now = false ↔ now < health.begunAt + health.interval := by
  rw [← Bool.not_eq_true, isDue_iff, not_le]

variable {k id : Nat} {health : IntervalClock τ} {sink : Sink} {t : Tcp τ} {r r' : Rig (Traced (Lan τ)) τ}

/-- Over a closed transport the link stays as it is until its health is due, by induction on what happens. -/
theorem Over.unnoticed (h : Over k id health sink t r) (hclosed : t.open? = none)
    (hrun : Unnoticed k id (health.begunAt + health.interval) r r') : Over k id health sink t r' := by
  induction hrun with
  | here => exact h
  | elsewhere _ hstation htransport ih =>
      obtain ⟨l, hl, hconnected, howns, hhealth⟩ := ih.link
      have hlink := congrArg (·.map Station.link) hstation
      have hsink := congrArg (·.map Station.sink) hstation
      exact ⟨ih.moment.elsewhere hlink, ⟨l, hlink.trans hl, hconnected, howns, hhealth⟩,
        hsink.trans ih.sink_eq, htransport.trans ih.transport⟩
  | use _ u ih =>
      have hused := ih.use u
      rwa [Use.run_of_closed hclosed] at hused
  | update _ hearly window reaction ih =>
      have hwait := (isDue_eq_false_iff health _).mpr hearly
      exact (ih.update_early hwait window reaction).2.2

/-- A lost connection is noticed within one health interval.  Take any connected link of a run under a
clock that does not go back.  A use of it closes its transport exactly when it breaks the connection: when
not all bytes are sent, or when reading the awaited line finds the connection broken, which neither a
deadline nor a line that is too long or malformed does.  From every moment on at which the transport has
closed, with the link still connected and not checked since, every use fails and touches nothing, and no
update changes anything, until the health is due, at the latest one interval after that moment.  The first
update from then on disconnects the transport and leaves the link reconnecting, and the sink is told once. -/
theorem Forward.notices {s : Station τ} {inFlight : List Attempt} (h : Forward k r inFlight)
    (hs : r.stations[k]? = some s) (hconnected : s.link.phase = .connected)
    (howns : s.link.transport = some id) (ht : r.lan.transports[id]? = some t) :
    (∀ u, ∃ t', Over k id s.link.health s.sink t' (r.use k u).2 ∧
      ∀ socket, t.open? = some socket → (t'.open? = none ↔ u.Breaks t r.lan.net socket)) ∧
    ∀ due, due = s.link.health.begunAt + s.link.health.interval →
    ∀ r₁ t₁, Over k id s.link.health s.sink t₁ r₁ → t₁.open? = none → r.now ≤ r₁.now →
      due ≤ r₁.now + s.link.health.interval ∧
      ∀ r₂, Unnoticed k id due r₁ r₂ →
        Over k id s.link.health s.sink t₁ r₂ ∧
        (∀ u, (r₂.use k u).1 ≠ .ok true ∧ (u.Writes → (r₂.use k u).1 = .ok false) ∧
          Untouched r₂ (r₂.use k u).2) ∧
        ∀ window reaction,
          (r₂.now < due → (r₂.update k window reaction).1 = .ok () ∧
            (r₂.update k window reaction).2.outside = r₂.outside ∧
            Over k id s.link.health s.sink t₁ (r₂.update k window reaction).2) ∧
          (due ≤ r₂.now → ∃ l r₃ status, r₂.Does k l [.probe id false, .disconnect id]
              { l with
                phase := .reconnecting
                enteredAt := r₂.now
                transport := none
                health := { s.link.health with begunAt := r₂.now }
                status } r₃ ∧
            r₂.update k window reaction = (.ok (), r₃.tell s.sink .disconnected reaction)) := by
  have hl : r.link? k = some s.link := by simp [link?, hs]
  have hsound := h.moment.sound_of_link hl
  obtain rfl := hsound.nil_of_connected hconnected
  have hsink : r.sink? k = some s.sink := by simp [sink?, hs]
  have hover : Over k id s.link.health s.sink t r :=
    ⟨h.moment, ⟨s.link, hl, hconnected, howns, rfl⟩, hsink, ht⟩
  refine ⟨fun u => ⟨_, hover.use u, fun socket hopen => Use.run_closes_iff hopen u⟩, ?_⟩
  rintro due rfl r₁ t₁ hover₁ hclosed hclock
  refine ⟨by gcongr; exact ((h.past hl).checked hconnected).trans hclock, ?_⟩
  intro r₂ hrun
  have hover₂ := hover₁.unnoticed hclosed hrun
  refine ⟨hover₂, hover₂.use_of_closed hclosed, fun window reaction => ⟨?_, ?_⟩⟩
  · intro hearly
    exact hover₂.update_early ((isDue_eq_false_iff _ _).mpr hearly) window reaction
  · intro hdue
    exact hover₂.update_due hclosed ((isDue_iff _ _).mpr hdue) window reaction

end

/-- A peer that closes.  Receiving finds that out; then a message is not sent, and an update loses the
connection as soon as the health is due. -/
theorem notices_end_of_stream :
    ∃ (r r₂ r₃ : Rig (Traced (Lan Int)) Int) (t : Tcp Int) (l : Link Int) (status : IntervalClock Int),
      Forward 0 r [] ∧ r.lan.transports[0]? = some t ∧ Use.receive.Breaks t r.lan.net 0 ∧
      r₂ = (r.use 0 .receive).2.wait 5 ∧ (r₂.use 0 (.send {})).1 = .ok false ∧
      r₂.Does 0 l [.probe 0 false, .disconnect 0]
        { l with
          phase := .reconnecting
          enteredAt := r₂.now
          transport := none
          health := ⟨5, r₂.now⟩
          status } r₃ ∧
      r₂.update 0 id id = (.ok (), r₃.tell .log .disconnected id) := by
  have hmade := Forward.made
    ({ outside := ⟨{ net := { clock := 0, coming := [{ arrivals := [.closed] }] } }, []⟩ } :
      Rig (Traced (Lan Int)) Int)
    ⟨⟨3, 1, defaultLineLimit⟩, {}, 5, 0, .start 1 2 30⟩ "10.0.0.2" 7000 .log rfl
  have hready := (hmade.turn (.setEnabled [] true) (le_refl _)).turn (.look []) (le_refl _)
  have hclaimed := hready.turn (.look []) (le_refl _)
  let opened (r : Rig (Traced (Lan Int)) Int) : Rig (Traced (Lan Int)) Int :=
    ((r.via fun o => Carrier.build o ⟨3, 1, defaultLineLimit⟩ (.of "10.0.0.2" 7000)).2.via
      fun o => Carrier.connect o 0).2
  have hopens {r : Rig (Traced (Lan Int)) Int} {inFlight : List Attempt} (h : Forward 0 r inFlight)
      (hclock : (opened r).now = r.now) : Forward 0 (opened r) inFlight := h.elsewhere rfl hclock.ge
  have hup := (hopens hclaimed rfl).turn (.conclude _ [] 0 true) (le_refl _)
  obtain ⟨r, hrun, hstation, htransport, hbegun, hclock⟩ :
      ∃ r : Rig (Traced (Lan Int)) Int, Forward 0 r [] ∧
        r.stations[0]?.map (fun s : Station Int => (s.link.phase, s.link.transport, s.link.health.interval,
          s.link.health.begunAt, s.sink)) = some (.connected, some 0, 5, 0, .log) ∧
        r.lan.transports[0]?.map (fun t : Tcp Int => (t.open?, decide (t.reading r.lan.net 0).IsBroken)) =
          some (some 0, true) ∧
        0 ≤ r.now ∧ r.now ≤ (r.use 0 .receive).2.now :=
    ⟨_, hup, by decide +kernel, by decide +kernel, by decide +kernel, by decide +kernel⟩
  obtain ⟨s, hs, hfields⟩ := Option.map_eq_some_iff.mp hstation
  simp only [Prod.mk.injEq] at hfields
  obtain ⟨hphase, howns, hinterval, hlast, hsink⟩ := hfields
  obtain ⟨t, ht, hfound⟩ := Option.map_eq_some_iff.mp htransport
  obtain ⟨hopen, hbroken⟩ := Prod.mk.inj hfound
  have hbreaks : Use.receive.Breaks t r.lan.net 0 := (decide_eq_true_iff (p := (t.reading _ 0).IsBroken)).mp hbroken
  obtain ⟨hused, hlost⟩ := hrun.notices hs hphase howns ht
  obtain ⟨t₁, hover, hcloses⟩ := hused .receive
  obtain ⟨-, hnoticed⟩ := hlost _ rfl _ t₁ hover ((hcloses 0 hopen).mpr hbreaks) hclock
  obtain ⟨-, hfails, hupdates⟩ :=
    hnoticed ((r.use 0 .receive).2.wait 5) (.elsewhere .here rfl rfl)
  obtain ⟨-, hunsent, -⟩ := hfails (.send {})
  obtain ⟨-, hloses⟩ := hupdates id id
  have hhealth : s.link.health = ⟨5, 0⟩ := by rw [← hinterval, ← hlast]
  rw [hhealth, hsink] at hloses
  have hdue : (0 : Int) + 5 ≤ ((r.use 0 .receive).2.wait 5).now :=
    add_le_add_left (hbegun.trans hclock) 5
  obtain ⟨l, r₃, status, hdoes, hupdate⟩ := hloses hdue
  exact ⟨r, _, r₃, t, l, status, hrun, ht, hbreaks, rfl, hunsent ⟨_, rfl⟩, hdoes, hupdate⟩

end Rig

end PeripheralLink

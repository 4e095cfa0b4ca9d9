import PeripheralLink.Proofs.Rig.Stages
/-!
What a link counts of its uses.  An errand is a use in a run, done or under way, with what its transport was called
for; `Traffic` is a run with the errands of its uses, in which anything else may happen between their stages.

The main statement is `Traffic.counters_eq_countP`: every outcome is counted once and under its own
heading, and uses change nothing of a rig but these counts.
-/

namespace PeripheralLink

/-- A use in a run. -/
structure Errand (σ τ : Type) where
  use : Use
  made : Rig σ τ
  /-- The rig in which it called its transport, with the number of the transport and the line. -/
  called : Option (Rig σ τ × Nat × List UInt8) := none
  stage : Use.Stage

namespace Errand

variable {σ τ : Type}

def start (r : Rig σ τ) (k : Nat) (u : Use) : Errand σ τ := { use := u, made := r, stage := (r.enter k u).1 }

def connected (k : Nat) (e : Errand σ τ) : Bool := (e.made.link? k).any (·.phase = .connected)

def failed (k : Nat) (e : Errand σ τ) : Bool := e.connected k && e.stage.result? = some false

/-- It has received a message and returned it. -/
def received (e : Errand σ τ) : Bool := e.use.awaits && e.stage.result? = some true

theorem connected_start {k : Nat} {r : Rig σ τ} {l : Link τ} (hl : r.link? k = some l) (u : Use) :
    (start r k u).connected k = decide (l.phase = .connected) := by
  simp [connected, start, hl]

variable [Carrier σ τ]

/-- It has called its transport for an exchange, and a line has come back. -/
def answered (e : Errand σ τ) : Bool :=
  match e.called with
  | some (r, id, bytes) =>
    match (r.via fun o => Carrier.exchange o id bytes).1 with
    | .ok line => line.isSome
    | .error _ => false
  | none => false

/-- It has sent a message: it was asked to do just that and has returned success, or its exchange has. -/
def sent (e : Errand σ τ) : Bool :=
  match e.use with
  | .send _ => e.stage.result? = some true
  | .receive => false
  | .request _ => e.answered

/-- Its exchange has come back with a line, and it has not gone on since. -/
def uncounted (e : Errand σ τ) : Bool :=
  match e.stage with
  | .exchanged line => line.isSome
  | _ => false

def proceed (e : Errand σ τ) (k : Nat) (r : Rig σ τ) : Errand σ τ where
  use := e.use
  made := e.made
  called :=
    match e.stage with
    | .given id bytes => some (r, id, bytes)
    | _ => e.called
  stage := (r.proceed k e.use e.stage).1

/-- What it was given by its transport, if it called one, was no breakdown, and no line of more than 3000
bytes. -/
def Served (e : Errand σ τ) : Prop :=
  ∀ r id bytes, e.called = some (r, id, bytes) →
    match e.use with
    | .send _ => True
    | .receive => ∀ line, (r.via fun o => Carrier.receive o id).1 = some line → line.length ≤ 3000
    | .request _ => ∃ answer, (r.via fun o => Carrier.exchange o id bytes).1 = .ok answer ∧
        ∀ line, answer = some line → line.length ≤ 3000

/-- What is known of a use at each stage. -/
def Sound (k : Nat) (e : Errand σ τ) : Prop :=
  match e.stage with
  | .unwritten => e.connected k = true ∧ e.called = none ∧ ∃ error, e.use.line = .error error
  | .given _ bytes => e.connected k = true ∧ e.called = none ∧ e.use.line = .ok bytes
  | .tried m _ => e.connected k = true ∧ e.use = .send m
  | .exchanged line => e.connected k = true ∧ (∃ m, e.use = .request m) ∧
      ∃ r id bytes, e.called = some (r, id, bytes) ∧ (r.via fun o => Carrier.exchange o id bytes).1 = .ok line
  | .received line => e.connected k = true ∧ e.use.awaits = true ∧
      (e.Served → ∀ bytes, line = some bytes → bytes.length ≤ 3000)
  | .returned result => e.use.Fits → e.Served → ∃ ok, result = .ok ok

variable {k : Nat} {e : Errand σ τ} {r : Rig σ τ} {l : Link τ}

theorem line_of_fits {u : Use} (h : u.Fits) : ∃ bytes, u.line = .ok bytes := by
  cases u with
  | receive => exact ⟨[], rfl⟩
  | send m => exact ⟨_, Message.lineBytes_of_headerFits h⟩
  | request m => exact ⟨_, Message.lineBytes_of_headerFits h⟩

/-- A use that begins on a connected link is given its transport, or finds its message unfit. -/
theorem sound_start (hl : r.link? k = some l) (howns : l.phase = .connected → l.transport.isSome = true) (u : Use) :
    (start r k u).Sound k := by
  have hconnected := connected_start hl u
  have hstage : (start r k u).stage = (r.enter k u).1 := rfl
  rcases Rig.enter_cases hl howns u with
    ⟨hphase, henter⟩ | ⟨hphase, ⟨id, bytes, hline, henter⟩ | ⟨error, hline, henter⟩ | ⟨error, hline, henter⟩⟩ <;>
    simp only [henter] at hstage <;> simp only [Sound, hstage]
  · exact fun _ _ => ⟨false, rfl⟩
  · exact ⟨by simp [hconnected, hphase], rfl, hline⟩
  · exact ⟨by simp [hconnected, hphase], rfl, error, hline⟩
  · intro hfits
    obtain ⟨bytes, hbytes⟩ := line_of_fits hfits
    exact absurd (hline.symm.trans hbytes) nofun

/-- A use that begins is not counted under any heading. -/
theorem start_blank (hl : r.link? k = some l) (howns : l.phase = .connected → l.transport.isSome = true) (u : Use) :
    (start r k u).failed k = false ∧ (start r k u).received = false ∧ (start r k u).sent = false ∧
      (start r k u).uncounted = false := by
  have hstage : (start r k u).stage = (r.enter k u).1 := rfl
  have hanswered : (start r k u).answered = false := rfl
  have hsent : (start r k u).stage.result? ≠ some true → (start r k u).sent = false := by
    intro hresult
    cases u with
    | send m => exact decide_eq_false hresult
    | receive => rfl
    | request m => exact hanswered
  rw [failed, received, uncounted, connected_start hl u]
  rcases Rig.enter_cases hl howns u with
    ⟨hphase, henter⟩ | ⟨hphase, ⟨id, bytes, hline, henter⟩ | ⟨error, hline, henter⟩ | ⟨error, hline, henter⟩⟩ <;>
    simp only [henter] at hstage <;> rw [hsent] <;> simp [hstage, Use.Stage.result?, hphase]

theorem sound_proceed (h : e.Sound k) (hl : r.link? k = some l) : (e.proceed k r).Sound k := by
  obtain ⟨u, made, called, stage⟩ := e
  cases stage with
  | unwritten => exact fun _ _ => ⟨false, rfl⟩
  | returned result => exact h
  | tried m delivered => exact fun _ _ => ⟨delivered, rfl⟩
  | exchanged line =>
      obtain ⟨hconnected, ⟨m, rfl⟩, r', id, bytes, hcalled, hline⟩ := h
      refine ⟨hconnected, rfl, fun hserved => ?_⟩
      obtain ⟨answer, hanswer, hshort⟩ := hserved r' id bytes hcalled
      rwa [Except.ok.inj (hanswer.symm.trans hline)] at hshort
  | given id bytes =>
      obtain ⟨hconnected, -, hbytes⟩ := h
      cases u with
      | send m => exact ⟨hconnected, rfl⟩
      | receive => exact ⟨hconnected, rfl, fun hserved => hserved r id bytes rfl⟩
      | request m =>
          cases hexchange : r.via fun o => Carrier.exchange o id bytes with
          | mk result r' =>
              cases result with
              | ok line =>
                  have hstage : (r.proceed k (.request m) (.given id bytes)).1 = .exchanged line := by
                    simp only [Rig.proceed, hexchange]
                  simp only [Sound, Errand.proceed, hstage]
                  exact ⟨hconnected, ⟨m, rfl⟩, r, id, bytes, rfl, congrArg Prod.fst hexchange⟩
              | error fault =>
                  have hstage : (r.proceed k (.request m) (.given id bytes)).1 = .returned (.error fault) := by
                    simp only [Rig.proceed, hexchange]
                  simp only [Sound, Errand.proceed, hstage]
                  intro _ hserved
                  obtain ⟨answer, hanswer, -⟩ := hserved r id bytes rfl
                  rw [hexchange] at hanswer
                  cases hanswer
  | received line =>
      obtain ⟨-, -, hshort⟩ := h
      intro _ hserved
      cases haccept : (r.accept k line).1 with
      | ok m => exact ⟨m.isSome, congrArg (Except.map Option.isSome) haccept⟩
      | error fault =>
          obtain ⟨-, bytes, rfl, hoversized⟩ := (Rig.accept_eq_error_iff hl).mp haccept
          have hlong : 3570 < bytes.length := hoversized.lt_length
          have hline := hshort hserved bytes rfl
          omega

/-- What is counted from one stage of an errand to the next is what the errand has come to. -/
structure Counts (k : Nat) (before after : Counters) (e e' : Errand σ τ) : Prop where
  failed : after.failed + (e.failed k).toNat = before.failed + (e'.failed k).toNat
  received : after.received + e.received.toNat = before.received + e'.received.toNat
  sent : after.sent + e'.uncounted.toNat + e.sent.toNat = before.sent + e.uncounted.toNat + e'.sent.toNat

/-- Calling the transport is not counted, whatever comes of it. -/
theorem counts_called {u : Use} {made : Rig σ τ} (id : Nat) (bytes : List UInt8) (counters : Counters) :
    Counts k counters counters ⟨u, made, none, .given id bytes⟩
      (Errand.proceed ⟨u, made, none, .given id bytes⟩ k r) := by
  cases u with
  | send m =>
      constructor <;> simp [failed, received, sent, uncounted, Errand.proceed, Rig.proceed, Use.Stage.result?]
  | receive =>
      constructor <;> simp [failed, received, sent, uncounted, Errand.proceed, Rig.proceed, Use.Stage.result?]
  | request m =>
      rcases hexchange : r.via fun o => Carrier.exchange o id bytes with ⟨fault | line, r'⟩ <;>
        constructor <;>
          simp [failed, received, sent, uncounted, answered, Errand.proceed, Rig.proceed, Use.Stage.result?,
            hexchange]

/-- Taking what was received is counted as the message that is read from it, or as a failure. -/
theorem counts_accepted {u : Use} {made : Rig σ τ} {called : Option (Rig σ τ × Nat × List UInt8)}
    (hl : r.link? k = some l) (hawaits : u.awaits = true)
    (hconnected : (made.link? k).any (·.phase = .connected) = true) (line : Option (List UInt8)) :
    Counts k l.counters (l.accept line).2.1.counters ⟨u, made, called, .received line⟩
      (Errand.proceed ⟨u, made, called, .received line⟩ k r) := by
  have hresult : (r.proceed k u (.received line)).1 =
      .returned (((l.accept line).1.mapError Fault.line).map Option.isSome) := by
    simp only [Rig.proceed, Rig.accept, hl]
  -- what is sent has been counted before
  have hsent : (Errand.proceed ⟨u, made, called, .received line⟩ k r).sent =
      Errand.sent ⟨u, made, called, .received line⟩ := by
    cases u <;> first | rfl | cases hawaits
  have hgone : (Errand.proceed ⟨u, made, called, .received line⟩ k r).uncounted = false := by
    simp [uncounted, Errand.proceed, hresult]
  rcases l.accept_outcome line with ⟨m, hm, heq⟩ | ⟨hnone, heq⟩ | ⟨e, he, heq⟩
  · rw [hm] at hresult
    refine ⟨?_, ?_, by rw [hsent, hgone, heq]; rfl⟩ <;>
      simp [failed, received, Errand.proceed, hresult, heq, Use.Stage.result?, Link.countReceived, Except.map,
        Except.mapError, hawaits]
  · rw [hnone] at hresult
    refine ⟨?_, ?_, by rw [hsent, hgone, heq]; rfl⟩ <;>
      simp [failed, received, connected, Errand.proceed, hresult, heq, Use.Stage.result?, Link.countFailed,
        Except.map, Except.mapError, hconnected]
  · rw [he] at hresult
    refine ⟨?_, ?_, by rw [hsent, hgone, heq]; rfl⟩ <;>
      simp [failed, received, Errand.proceed, hresult, heq, Use.Stage.result?, Except.map, Except.mapError]

/-- A use that goes on is counted as what becomes of it. -/
theorem counters_proceed (h : e.Sound k) (hl : r.link? k = some l) :
    ∃ counters : Counters, (r.proceed k e.use e.stage).2.link? k = some { l with counters } ∧
      Counts k l.counters counters e (e.proceed k r) := by
  have hvia {α : Type} (call : σ → α × σ) : (r.via call).2.link? k = some l :=
    (Rig.link?_of_stations (Rig.stations_via r call) k).trans hl
  obtain ⟨u, made, called, stage⟩ := e
  cases stage with
  | returned result => exact ⟨l.counters, hl, rfl, rfl, rfl⟩
  | given id bytes =>
      obtain ⟨-, hcalled, -⟩ := h
      cases hcalled
      refine ⟨l.counters, ?_, counts_called id bytes l.counters⟩
      cases u with
      | send m => exact hvia fun o => Carrier.send o id bytes
      | receive => exact hvia fun o => Carrier.receive o id
      | request m =>
          rw [Rig.snd_proceed_request]
          exact hvia fun o => Carrier.exchange o id bytes
  | unwritten =>
      obtain ⟨hconnected, hcalled, -⟩ := h
      cases hcalled
      replace hconnected : (made.link? k).any (·.phase = .connected) = true := hconnected
      refine ⟨_, Rig.link?_change hl _, ?_⟩
      cases u <;> constructor <;>
        simp [failed, received, sent, uncounted, answered, connected, Errand.proceed, Rig.proceed,
          Use.Stage.result?, Link.countFailed, hconnected]
  | tried m delivered =>
      obtain ⟨hconnected, huse⟩ := h
      cases huse
      replace hconnected : (made.link? k).any (·.phase = .connected) = true := hconnected
      cases delivered <;> refine ⟨_, Rig.link?_change hl _, ?_⟩ <;> constructor <;>
        simp [failed, received, sent, uncounted, connected, Errand.proceed, Rig.proceed, Use.Stage.result?,
          Use.awaits, Link.sent, Link.countSent, Link.countFailed, hconnected]
  | exchanged line =>
      obtain ⟨-, ⟨m, huse⟩, r', id, bytes, hcalled, hline⟩ := h
      cases huse
      cases hcalled
      cases line with
      | none =>
          refine ⟨l.counters, hl, ?_⟩
          constructor <;>
            simp [failed, received, sent, uncounted, answered, Errand.proceed, Rig.proceed, Use.Stage.result?, hline]
      | some line =>
          refine ⟨_, Rig.link?_change hl fun l => (l.countSent, []), ?_⟩
          constructor <;>
            simp [failed, received, sent, uncounted, answered, Errand.proceed, Rig.proceed, Use.Stage.result?, hline]
  | received line =>
      obtain ⟨hconnected, hawaits, -⟩ := h
      refine ⟨_, ?_, counts_accepted hl hawaits hconnected line⟩
      obtain ⟨⟨counters, heq⟩, -⟩ := l.counts_accept line
      exact (Rig.link?_accept hl line).trans (by rw [heq])

end Errand

structure Tallied {σ τ : Type} [Carrier σ τ] (k : Nat) (l : Link τ) (errands : List (Errand σ τ)) : Prop where
  failed : l.counters.failed = errands.countP (·.failed k)
  received : l.counters.received = errands.countP Errand.received
  sent : l.counters.sent + errands.countP Errand.uncounted = errands.countP Errand.sent

theorem Tallied.congr {σ τ : Type} [Carrier σ τ] {k : Nat} {l l' : Link τ} {errands : List (Errand σ τ)}
    (h : Tallied k l errands) (hmessages : l'.messages = l.messages) :
    Tallied k l' errands := by
  simp only [Link.messages, Prod.mk.injEq] at hmessages
  obtain ⟨hsent, hreceived, hfailed⟩ := hmessages
  exact ⟨hfailed.trans h.failed, hreceived.trans h.received, hsent ▸ h.sent⟩

theorem countP_middle {α : Type} (p : α → Bool) (before after : List α) (x : α) :
    (before ++ x :: after).countP p = before.countP p + after.countP p + (p x).toNat := by
  rw [List.countP_append, List.countP_cons]
  cases p x <;> simp [Nat.add_assoc]

namespace Rig

variable {σ τ : Type} [Carrier σ τ] [Zero τ] [Sub τ] [Mul τ] [LE τ] [DecidableLE τ] [LT τ]
  [DecidableLT τ]

/-- A run of link `k`, which is added to the rig `origin`, with the attempts in flight and the errands of its
uses.  Whatever else happens between two holds of its lock is `aside`. -/
inductive Traffic (k : Nat) (origin : Rig σ τ) (aside : Rig σ τ → Rig σ τ → Prop) :
    Rig σ τ → List Attempt → List (Errand σ τ) → Prop
  | made (options : LinkOptions τ) (host : String) (port : Int) (sink : Sink)
      (hk : origin.stations.size = k) :
      Traffic k origin aside (origin.addLink options (.of host port) sink).2 [] []
  | elsewhere {r r' : Rig σ τ} {inFlight : List Attempt} {errands : List (Errand σ τ)}
      (h : Traffic k origin aside r inFlight errands) (haside : aside r r') :
      Traffic k origin aside r' inFlight errands
  | setEnabled {r : Rig σ τ} {inFlight : List Attempt} {errands : List (Errand σ τ)}
      (h : Traffic k origin aside r inFlight errands) (on : Bool) :
      Traffic k origin aside (r.setEnabled k on) inFlight errands
  | configure {r : Rig σ τ} {inFlight : List Attempt} {errands : List (Errand σ τ)}
      (h : Traffic k origin aside r inFlight errands) (host : String) (port : Int) :
      Traffic k origin aside (r.configure k (.of host port)) inFlight errands
  | shutDown {r : Rig σ τ} {inFlight : List Attempt} {errands : List (Errand σ τ)}
      (h : Traffic k origin aside r inFlight errands) :
      Traffic k origin aside (r.shutDownLink k) inFlight errands
  | look {r : Rig σ τ} {inFlight : List Attempt} {errands : List (Errand σ τ)}
      (h : Traffic k origin aside r inFlight errands) :
      Traffic k origin aside (r.look k).2 ((r.look k).1.claimed ++ inFlight) errands
  | conclude {r : Rig σ τ} {a : Attempt} {inFlight : List Attempt} {errands : List (Errand σ τ)}
      (h : Traffic k origin aside r (a :: inFlight) errands) (id : Nat) (up : Bool) :
      Traffic k origin aside (r.conclude k a id up).2 inFlight errands
  | abort {r : Rig σ τ} {a : Attempt} {inFlight : List Attempt} {errands : List (Errand σ τ)}
      (h : Traffic k origin aside r (a :: inFlight) errands) :
      Traffic k origin aside (r.abort k) inFlight errands
  | enter {r : Rig σ τ} {inFlight : List Attempt} {errands : List (Errand σ τ)}
      (h : Traffic k origin aside r inFlight errands) (u : Use) :
      Traffic k origin aside (r.enter k u).2 inFlight (errands ++ [.start r k u])
  | proceed {r : Rig σ τ} {inFlight : List Attempt} {before after : List (Errand σ τ)} {e : Errand σ τ}
      (h : Traffic k origin aside r inFlight (before ++ e :: after)) :
      Traffic k origin aside (r.proceed k e.use e.stage).2 inFlight (before ++ e.proceed k r :: after)

/-- What happens is not up to link `k`. -/
def Apart (k : Nat) (r r' : Rig σ τ) : Prop := r'.link? k = r.link? k

theorem stations_enter {σ τ : Type} (r : Rig σ τ) (k : Nat) (u : Use) :
    (r.enter k u).2.stations = r.stations := by
  unfold enter
  split
  · rfl
  · split
    · rfl
    · split <;> rfl

namespace Traffic

variable {k : Nat} {origin r r' : Rig σ τ} {l : Link τ} {aside aside' : Rig σ τ → Rig σ τ → Prop}
  {inFlight : List Attempt} {errands : List (Errand σ τ)}

theorem mono (h : Traffic k origin aside r inFlight errands) (haside : ∀ r r', aside r r' → aside' r r') :
    Traffic k origin aside' r inFlight errands := by
  induction h with
  | made options host port sink hk => exact .made options host port sink hk
  | elsewhere _ happened ih => exact ih.elsewhere (haside _ _ happened)
  | setEnabled _ on ih => exact ih.setEnabled on
  | configure _ host port ih => exact ih.configure host port
  | shutDown _ ih => exact ih.shutDown
  | look _ ih => exact ih.look
  | conclude _ id up ih => exact ih.conclude id up
  | abort _ ih => exact ih.abort
  | enter _ u ih => exact ih.enter u
  | proceed _ ih => exact ih.proceed

theorem moment (h : Traffic k origin (Apart k) r inFlight errands) : Moment k r inFlight := by
  induction h with
  | made options host port sink hk => exact .made origin options host port sink hk
  | elsewhere _ happened ih => exact ih.elsewhere happened
  | setEnabled _ on ih => exact ih.setEnabled on
  | configure _ host port ih => exact ih.configure host port
  | shutDown _ ih => exact ih.shutDown
  | look _ ih => exact ih.look
  | @conclude _ a inFlight _ _ id up ih => exact (Turn.conclude a inFlight id up).moment ih
  | @abort _ a inFlight _ _ ih => exact (Turn.abort a inFlight).moment ih
  | enter _ u ih => exact Moment.messaging.enter ih u
  | proceed _ ih => exact Moment.messaging.proceed ih _ _

/-- What is so of every use that begins in a run, and stays so whenever one goes on, is so of all its errands, by
induction on it. -/
theorem forall_errands_of_reached {P : Errand σ τ → Prop} (h : Traffic k origin aside r inFlight errands)
    (hstart : ∀ r inFlight errands, Traffic k origin aside r inFlight errands → ∀ u, P (.start r k u))
    (hproceed : ∀ r inFlight errands, Traffic k origin aside r inFlight errands → ∀ e, P e → P (e.proceed k r)) :
    ∀ e ∈ errands, P e := by
  induction h with
  | made => exact List.forall_mem_nil _
  | elsewhere _ _ ih => exact ih
  | setEnabled _ _ ih => exact ih
  | configure _ _ _ ih => exact ih
  | shutDown _ ih => exact ih
  | look _ ih => exact ih
  | conclude _ _ _ ih => exact ih
  | abort _ ih => exact ih
  | enter h u ih =>
      simp only [List.mem_append, List.mem_singleton]
      rintro e (he | rfl)
      · exact ih e he
      · exact hstart _ _ _ h u
  | @proceed r _ before after e h ih =>
      intro e' he'
      rcases List.mem_append.mp he' with hbefore | hrest
      · exact ih e' (List.mem_append_left _ hbefore)
      · rcases List.mem_cons.mp hrest with rfl | hafter
        · exact hproceed r _ _ h e (ih e (List.mem_append_right _ List.mem_cons_self))
        · exact ih e' (List.mem_append_right _ (List.mem_cons_of_mem e hafter))

/-- The same, with what is known of the link. -/
theorem forall_errands {P : Errand σ τ → Prop} (h : Traffic k origin (Apart k) r inFlight errands)
    (hstart : ∀ (r : Rig σ τ) l u, r.link? k = some l → (l.phase = .connected → l.transport.isSome = true) →
      P (.start r k u))
    (hproceed : ∀ (r : Rig σ τ) l e, r.link? k = some l → P e → P (e.proceed k r)) : ∀ e ∈ errands, P e := by
  refine h.forall_errands_of_reached (fun r _ _ h u => ?_) fun r _ _ h e he => ?_
  · obtain ⟨l, hl, hsound⟩ := h.moment.sound
    exact hstart r l u hl hsound.owns_iff.mpr
  · obtain ⟨l, hl, -⟩ := h.moment.sound
    exact hproceed r l e hl he

/-- What the parts of a run keep is so at every moment of it. -/
theorem keeps {P : Rig σ τ → Prop} (hlink : Performing P) (hmessages : Messaging k P)
    (hmade : ∀ options target sink, P (origin.addLink options target sink).2)
    (haside : ∀ r r', aside r r' → P r → P r') (h : Traffic k origin aside r inFlight errands) : P r := by
  induction h with
  | made options host port sink => exact hmade options _ sink
  | elsewhere _ happened ih => exact haside _ _ happened ih
  | setEnabled _ on ih => exact hlink.change ih k _
  | configure _ host port ih => exact hlink.change ih k _
  | shutDown _ ih => exact hlink.change ih k _
  | look _ ih => exact hlink.look ih k
  | conclude _ id up ih => exact hlink.conclude ih k _ id up
  | abort _ ih => exact hlink.change ih k _
  | enter _ u ih => exact hmessages.enter ih u
  | proceed _ ih => exact hmessages.proceed ih _ _

theorem sound (h : Traffic k origin (Apart k) r inFlight errands) : ∀ e ∈ errands, e.Sound k :=
  h.forall_errands (fun _ _ u hl howns => Errand.sound_start hl howns u) fun _ _ _ hl he =>
    Errand.sound_proceed he hl

/-- The counts, by induction on the run. -/
theorem tally (h : Traffic k origin (Apart k) r inFlight errands) (hl : r.link? k = some l) :
    Tallied k l errands := by
  induction h generalizing l with
  | made options host port sink hk =>
      subst hk
      rw [link?_addLink] at hl
      cases hl
      exact ⟨rfl, rfl, rfl⟩
  | elsewhere _ happened ih => exact ih (happened.symm.trans hl)
  | @setEnabled r _ _ h on ih =>
      obtain ⟨l₀, hl₀, -⟩ := h.moment.sound
      obtain rfl := Option.some.inj ((link?_change hl₀ (·.setEnabled r.now on)).symm.trans hl)
      exact (ih hl₀).congr (Link.messages_of_counters (l₀.counters_setEnabled _ on))
  | @configure r _ _ h host port ih =>
      obtain ⟨l₀, hl₀, -⟩ := h.moment.sound
      obtain rfl := Option.some.inj ((link?_change hl₀ (·.configure r.now (.of host port))).symm.trans hl)
      exact (ih hl₀).congr (Link.messages_of_counters (l₀.counters_configure _ _))
  | @shutDown r _ _ h ih =>
      obtain ⟨l₀, hl₀, -⟩ := h.moment.sound
      obtain rfl := Option.some.inj ((link?_change hl₀ (·.shutDown r.now)).symm.trans hl)
      exact (ih hl₀).congr (Link.messages_of_counters (l₀.counters_setEnabled _ false))
  | look h ih =>
      obtain ⟨l₀, hl₀, hsound⟩ := h.moment.sound
      obtain ⟨alive, -, hpolled⟩ := link?_look hl₀
      obtain rfl := Option.some.inj (hpolled.symm.trans hl)
      exact (ih hl₀).congr (hsound.messages_poll _ alive)
  | @conclude _ a _ _ h id up ih =>
      obtain ⟨l₀, hl₀, -⟩ := h.moment.sound
      obtain rfl := Option.some.inj ((link?_conclude hl₀ a id up).symm.trans hl)
      exact (ih hl₀).congr (l₀.messages_settle _ a id up)
  | abort h ih =>
      obtain ⟨l₀, hl₀, -⟩ := h.moment.sound
      obtain rfl := Option.some.inj ((link?_change hl₀ fun l => (l.abort, [])).symm.trans hl)
      exact (ih hl₀).congr rfl
  | @enter r _ _ h u ih =>
      obtain ⟨l₀, hl₀, hsound⟩ := h.moment.sound
      obtain rfl := Option.some.inj (((link?_of_stations (stations_enter r k u) k).trans hl₀).symm.trans hl)
      obtain ⟨hfailed, hreceived, hsent, huncounted⟩ := Errand.start_blank hl₀ hsound.owns_iff.mpr u
      obtain ⟨hfailed₀, hreceived₀, hsent₀⟩ := ih hl₀
      refine ⟨?_, ?_, ?_⟩ <;>
        simpa [List.countP_append, hfailed, hreceived, hsent, huncounted]
  | @proceed r _ before after e h ih =>
      obtain ⟨l₀, hl₀, -⟩ := h.moment.sound
      have hsound := h.sound e (List.mem_append_right _ List.mem_cons_self)
      obtain ⟨counters, hl', hcounts⟩ := Errand.counters_proceed hsound hl₀
      obtain rfl := Option.some.inj (hl'.symm.trans hl)
      obtain ⟨hfailed, hreceived, hsent⟩ := hcounts
      obtain ⟨hfailed₀, hreceived₀, hsent₀⟩ := ih hl₀
      simp only [countP_middle] at hfailed₀ hreceived₀ hsent₀
      refine ⟨?_, ?_, ?_⟩ <;> simp only [countP_middle] <;> omega

theorem via {α : Type} (h : Traffic k origin (Apart k) r inFlight errands) (call : σ → α × σ) :
    Traffic k origin (Apart k) (r.via call).2 inFlight errands :=
  h.elsewhere (link?_of_stations (stations_via r call) k)

/-- A whole use is an errand of the run, which has returned what the use comes to. -/
theorem use (h : Traffic k origin aside r inFlight errands) (u : Use) :
    ∃ e : Errand σ τ, e.use = u ∧ e.made = r ∧ e.stage = .returned (r.use k u).1 ∧
      Traffic k origin aside (r.use k u).2 inFlight (errands ++ [e]) := by
  have hstages := use_eq_proceed r k u
  have hdone := (((h.enter u).proceed).proceed).proceed
  rw [Prod.ext_iff] at hstages
  exact ⟨_, rfl, rfl, hstages.1, hstages.2 ▸ hdone⟩

/-- Whole updates go on with a run, whatever calls come in. -/
theorem updating (k : Nat) (origin : Rig σ τ) (errands : List (Errand σ τ)) :
    Updating k fun inFlight r => ∃ more, Traffic k origin (Apart k) r inFlight (errands ++ more) where
  build limits target h := h.imp fun _ h => h.via fun o => Carrier.build o limits target
  approach id h := h.imp fun _ h => h.via fun o => ((), Carrier.approach o id)
  connect id h := h.imp fun _ h => h.via fun o => Carrier.connect o id
  look h := h.imp fun _ h => h.look
  conclude id up h := h.imp fun _ h => h.conclude id up
  abort h := h.imp fun _ h => h.abort
  record _ h := h.imp fun _ h => h.elsewhere rfl

/-- A use counts, and does nothing else to its link.  On a link that is not connected it returns a failure at once
and touches nothing.  On one that is connected it returns if its message is fit and what the transport gave it
is no breakdown and no line of more than 3000 bytes; its failure is counted once, so is the message that it
received, and so is the message that it sent: with what it returns if it was to send, and if it was to make a
request as soon as the exchange has come back with a line, whatever becomes of that line. -/
theorem counters_eq_countP (h : Traffic k origin (Apart k) r inFlight errands) :
    ∃ l, r.link? k = some l ∧
      (∀ u, l.phase ≠ .connected → r.enter k u = (.returned (.ok false), r) ∧ r.use k u = (.ok false, r)) ∧
      (∀ u, Alike k r (r.enter k u).2 ∧ Alike k r (r.use k u).2) ∧
      (∀ e ∈ errands, Alike k r (r.proceed k e.use e.stage).2 ∧
        ((∀ id bytes, e.stage ≠ .given id bytes) → (r.proceed k e.use e.stage).2.outside = r.outside)) ∧
      (∀ e ∈ errands, e.use.Fits → e.Served → ∀ result, e.stage = .returned result → ∃ ok, result = .ok ok) ∧
      l.counters.failed = errands.countP (·.failed k) ∧
      l.counters.received = errands.countP Errand.received ∧
      l.counters.sent + errands.countP Errand.uncounted = errands.countP Errand.sent := by
  obtain ⟨l, hl, -⟩ := h.moment.sound
  obtain ⟨hfailed, hreceived, hsent⟩ := h.tally hl
  refine ⟨l, hl, fun u hphase => enter_of_ne_connected hl hphase u, fun u =>
    ⟨(Alike.messaging r k).enter (.refl k r) u, (Alike.messaging r k).use (.refl k r) u⟩,
    fun e _ => ⟨(Alike.messaging r k).proceed (.refl k r) e.use e.stage, outside_proceed r k e.use⟩, ?_,
    hfailed, hreceived, hsent⟩
  intro e he hfits hserved result hstage
  have hsound := h.sound e he
  simp only [Errand.Sound, hstage] at hsound
  exact hsound hfits hserved

end Traffic

/-- A message that is sent, a request whose answer cannot be read, a wait for a message that does not come, and a
message on a link that has been turned off. -/
theorem Traffic.counters_eq_countP_mixed :
    ∃ (r : Rig (Scripted Int) Int) (errands : List (Errand (Scripted Int) Int)) (l : Link Int),
      Traffic 0 { outside := { clock := 0, replies := [asciiBytes "zz\r\n".toList] } } (Apart 0) r [] errands ∧
        r.link? 0 = some l ∧ errands.length = 4 ∧ l.counters.sent = 2 ∧ l.counters.received = 0 ∧
        l.counters.failed = 2 ∧ errands.countP (·.failed 0) = 2 ∧ errands.countP Errand.sent = 2 := by
  let origin : Rig (Scripted Int) Int := { outside := { clock := 0, replies := [asciiBytes "zz\r\n".toList] } }
  have hmade : Traffic 0 origin (Apart 0) _ [] [] :=
    .made ⟨⟨3, 1, defaultLineLimit⟩, {}, 5, 0, .start 1 2 30⟩ "10.0.0.2" 7000 .log rfl
  have hclaimed := (hmade.setEnabled true).look.look
  have hbuilt := hclaimed.via fun o => Carrier.build o ⟨3, 1, defaultLineLimit⟩ (.of "10.0.0.2" 7000)
  have hconnected := (hbuilt.via fun o => Carrier.connect o 0).conclude 0 true
  obtain ⟨e₀, -, -, hfirst, hsent⟩ := hconnected.use (.send {})
  obtain ⟨e₁, -, -, hsecond, hrequested⟩ := hsent.use (.request {})
  obtain ⟨e₂, -, -, hthird, hreceived⟩ := hrequested.use .receive
  obtain ⟨e₃, -, -, hfourth, hended⟩ := (hreceived.setEnabled false).use (.send {})
  obtain ⟨l, hl, -, -, -, -, hfailed, -, hcounted⟩ := hended.counters_eq_countP
  refine ⟨_, _, l, hended, hl, rfl, ?_⟩
  have hover : ([e₀, e₁, e₂, e₃].countP Errand.uncounted) = 0 := by
    simp [Errand.uncounted, hfirst, hsecond, hthird, hfourth]
  have hcounters : some l.counters = some ⟨2, 0, 2, 1, 0⟩ :=
    (congrArg (Option.map Link.counters) hl).symm.trans (by decide +kernel)
  rw [Option.some.inj hcounters] at hfailed hcounted ⊢
  exact ⟨rfl, rfl, rfl, hfailed.symm, hcounted.symm.trans (congrArg _ hover)⟩

end Rig

end PeripheralLink

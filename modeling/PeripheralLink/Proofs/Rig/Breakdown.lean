import PeripheralLink.Proofs.Rig.Recovery
/-!
An attempt that breaks down, in building its transport or in connecting it.  The update that makes it raises
what broke down, and leaves the link as it found it: the attempt is counted, and everything else stands
where it stood before the claim, so that the next update makes the attempt again.  What other calls have done
to the link meanwhile stays done.
-/

namespace PeripheralLink

namespace Link

variable {τ : Type} {l : Link τ} {inFlight : List Attempt} {now later : τ}

/-- The link is about to make an attempt: its first one, or one more after its delay. -/
def AttemptDue [Sub τ] [LE τ] (l : Link τ) (now : τ) : Prop :=
  l.phase = .connecting ∨ l.phase = .reconnecting ∧ l.backoff.delay ≤ now - l.enteredAt

/-- An attempt that is due stays due. -/
theorem AttemptDue.mono [Ring τ] [LinearOrder τ] [IsStrictOrderedRing τ] (h : l.AttemptDue now)
    (hlater : now ≤ later) : l.AttemptDue later :=
  h.imp_right fun ⟨hphase, hdelay⟩ => ⟨hphase, hdelay.trans (sub_le_sub_right hlater _)⟩

variable [Zero τ] [Sub τ] [LE τ] [DecidableLE τ] [LT τ] [DecidableLT τ]

/-- A poll claims an attempt exactly when none is in flight and one is due. -/
theorem Sound.poll_attempt_iff (h : l.Sound inFlight) (now : τ) (alive : Bool) {a : Attempt} :
    (l.poll now alive).2.2 = .attempt a ↔
      l.attempting = false ∧ l.AttemptDue now ∧ a = ⟨l.generation, l.phase, l.target⟩ := by
  cases hidle : l.attempting with
  | true => simp [poll_of_attempting hidle]
  | false =>
      obtain ⟨status, reports, hpoll⟩ := poll_of_idle hidle now alive
      rw [hpoll]
      rcases h.advance_cases now alive with
        ⟨heq, hstay⟩ | ⟨hphase, heq⟩ | ⟨hdue, heq⟩ | ⟨hphase, -, -, heq⟩ | ⟨hphase, -, -, heq⟩
      · have hwaits : ¬ l.AttemptDue now := by
          rcases hstay with hphase | ⟨hphase, -⟩ | ⟨hphase, hwait⟩ <;> simp [AttemptDue, *]
        simp [heq, hwaits]
      · simp [heq, AttemptDue, hphase]
      · simp [heq, Link.claim, giveUp, show l.AttemptDue now from hdue, eq_comm]
      · simp [heq, AttemptDue, hphase]
      · simp [heq, AttemptDue, hphase]

end Link

namespace Rig

theorem station_setLink {σ τ : Type} {r : Rig σ τ} {k : Nat} {s : Station τ}
    (hs : r.stations[k]? = some s) (l : Link τ) :
    (r.setLink k l).stations[k]? = some { s with link := l } := by
  simp [setLink, Array.getElem?_modify, hs]

variable {σ τ : Type} [Carrier σ τ]

section

variable {k : Nat} {r r₁ r' : Rig σ τ} {limits : TransportLimits τ} {target : Target} {fault : Fault}
  {window reaction : Rig σ τ → Rig σ τ}

/-- Building a transport breaks down; or one is built, and connecting it breaks down after other calls have
come in between. -/
inductive Breaks (r : Rig σ τ) (limits : TransportLimits τ) (target : Target)
    (window : Rig σ τ → Rig σ τ) (fault : Fault) : Rig σ τ → Prop
  | building {r' : Rig σ τ} (h : (r.via fun o => Carrier.build o limits target) = (.error fault, r')) :
      Breaks r limits target window fault r'
  | connecting {id : Nat} {r₁ r' : Rig σ τ}
      (hbuilt : (r.via fun o => Carrier.build o limits target) = (.ok id, r₁))
      (h : ((window (r₁.via fun o => ((), Carrier.approach o id)).2).via fun o => Carrier.connect o id) =
        (.error fault, r')) : Breaks r limits target window fault r'

/-- Without calls in between, nothing that breaks down has told a sink or touched a link. -/
theorem Breaks.silently (h : Breaks r limits target id fault r') {moves : List Phase} {start : Rig σ τ}
    (hbefore : Silently k start moves r) : Silently k start moves r' ∧ r'.stations = r.stations := by
  cases h with
  | building h =>
      have hbuilt := hbefore.via fun o => Carrier.build o limits target
      rw [h] at hbuilt
      exact ⟨hbuilt, congrArg (·.2.stations) h.symm⟩
  | @connecting transport r₁ _ hbuilt h =>
      have hmade := hbefore.via fun o => Carrier.build o limits target
      rw [hbuilt] at hmade
      have hbroken := (hmade.via fun o => ((), Carrier.approach o transport)).via
        fun o => Carrier.connect o transport
      rw [show ((r₁.via _).2.via _) = _ from h] at hbroken
      have hfirst : r₁.stations = r.stations := congrArg (·.2.stations) hbuilt.symm
      have hlast : r'.stations = r₁.stations := congrArg (·.2.stations) h.symm
      exact ⟨hbroken, hlast.trans hfirst⟩

/-- What breaks down is raised, once the attempt has been given up. -/
theorem Breaks.attempt [Mul τ] [LT τ] [DecidableLT τ] {a : Attempt}
    (h : Breaks r limits a.target window fault r') (k : Nat) (sink : Sink)
    (reaction : Rig σ τ → Rig σ τ) :
    r.attempt k limits sink a window reaction = (.error fault, r'.abort k) := by
  unfold Rig.attempt
  cases h with
  | building h => rw [h]
  | connecting hbuilt h =>
      rw [hbuilt]
      dsimp only
      rw [h]

/-- Giving an attempt up ends it, and does nothing else. -/
theorem abort_eq {l : Link τ} (hl : r.link? k = some l) :
    r.abort k = r.setLink k { l with attempting := false } := by
  rw [abort, change_eq hl]
  rfl

end

/-- The first part of an update replaces the link, and tells no sink. -/
theorem silently_look [Zero τ] [Sub τ] [LE τ] [DecidableLE τ] [LT τ] [DecidableLT τ] {k : Nat}
    {r : Rig σ τ} {s : Station τ} (hs : r.stations[k]? = some s) :
    ∃ alive, (r.look k).1 = (s.link.poll r.now alive).2.2 ∧
      (r.look k).2.stations[k]? = some { s with link := (s.link.poll r.now alive).1 } ∧
      Silently k r (if (s.link.poll r.now alive).1.phase = s.link.phase then []
        else [(s.link.poll r.now alive).1.phase]) (r.look k).2 := by
  have hl : r.link? k = some s.link := by simp [link?, hs]
  obtain ⟨alive, r', hquiet, hstations, hlook⟩ : ∃ (alive : Bool) (r' : Rig σ τ), Silently k r [] r' ∧
      r'.stations = r.stations ∧ r.look k = ((s.link.poll r.now alive).2.2,
        (r'.setLink k (s.link.poll r.now alive).1).perform (s.link.poll r.now alive).2.1) := by
    simp only [look, hl]
    cases s.link.probe? r.now with
    | none => exact ⟨true, r, .none, rfl, rfl⟩
    | some id => exact ⟨_, _, .via .none fun o => Carrier.probe o id, rfl, rfl⟩
  have hs' : r'.stations[k]? = some s := by rw [hstations, hs]
  refine ⟨alive, by rw [hlook], ?_, ?_⟩
  · rw [hlook, stations_perform, station_setLink hs']
  · rw [hlook]
    exact (hquiet.change (by simp [link?, hs']) _).perform _

section

variable {k : Nat} {r r₁ r₂ : Rig σ τ} {inFlight : List Attempt} {s : Station τ} {a : Attempt}

/-- Giving up an attempt that has broken down leaves the station as it was before the claim, but for the
count. -/
theorem Breaks.given_up {target : Target} {fault : Fault} {status : IntervalClock τ}
    (hbreaks : Breaks r₁ s.limits target id fault r₂) (hsound : s.link.Sound inFlight)
    (hidle : s.link.attempting = false) (hphase : s.link.phase ≠ .connected)
    (hstation : r₁.stations[k]? = some { s with link := { s.link.claim.1 with status } })
    (hquiet : Silently k r [] r₁) :
    Silently k r [] (r₂.abort k) ∧ (r₂.abort k).stations[k]? = some { s with link := { s.link with
      status, counters := { s.link.counters with attempts := s.link.counters.attempts + 1 } } } := by
  obtain ⟨hbroken, hstations⟩ := hbreaks.silently hquiet
  have hs₂ := (congrArg (·[k]?) hstations).trans hstation
  have hl₂ : r₂.link? k = some { s.link.claim.1 with status } := by
    rw [link?, hs₂]
    rfl
  rw [abort_eq hl₂]
  refine ⟨by simpa using hbroken.change hl₂ { s.link.claim.1 with status, attempting := false }, ?_⟩
  rw [station_setLink hs₂]
  have hgivenUp := hsound.abort_claim hidle hphase status
  rw [Link.abort] at hgivenUp
  rw [hgivenUp]

variable [Zero τ] [Sub τ] [Mul τ] [LE τ] [DecidableLE τ] [LT τ] [DecidableLT τ]

/-- An update that claims an attempt makes it. -/
theorem update_of_claim (hs : r.stations[k]? = some s) (hclaim : (r.look k).1 = .attempt a)
    (window reaction : Rig σ τ → Rig σ τ) :
    r.update k window reaction = (r.look k).2.attempt k s.limits s.sink a window reaction := by
  simp only [Rig.update, hs]
  cases hlook : r.look k with
  | mk polled r₁ =>
      rw [hlook] at hclaim
      obtain rfl : polled = .attempt a := hclaim
      rfl

/-- A claim is due, tells no sink, and leaves the station as it was but for the attempt that it has begun. -/
theorem Moment.look_claimed (h : Moment k r inFlight) (hs : r.stations[k]? = some s)
    (hclaim : r.look k = (.attempt a, r₁)) :
    (s.link.attempting = false ∧ s.link.AttemptDue r.now ∧
      a = ⟨s.link.generation, s.link.phase, s.link.target⟩) ∧
    ∃ status, r₁.stations[k]? = some { s with link := { s.link.claim.1 with status } } ∧
      Silently k r [] r₁ := by
  have hsound := h.sound_of_link (show r.link? k = some s.link by simp [link?, hs])
  obtain ⟨alive, hpolled, hstation, hquiet⟩ := silently_look hs
  rw [hclaim] at hpolled hstation hquiet
  obtain ⟨status, hclaimed⟩ : ∃ status, (s.link.poll r.now alive).1 = { s.link.claim.1 with status } := by
    obtain ⟨-, -, heq⟩ := hsound.poll_attempt hpolled.symm
    rw [heq]
    rcases s.link.claim.1.reportStatus_cases r.now with hsame | hmarked
    · exact ⟨_, hsame⟩
    · exact ⟨_, hmarked⟩
  have hstands : (s.link.poll r.now alive).1.phase = s.link.phase := by
    rw [hclaimed]
    rfl
  rw [if_pos hstands] at hquiet
  rw [hclaimed] at hstation
  exact ⟨(hsound.poll_attempt_iff r.now alive).mp hpolled.symm, status, hstation, hquiet⟩

end

/-- An attempt that breaks down leaves the link as it was.  The update that makes it raises what broke down;
with no call in between it tells no sink, leaves the station as it found it but for the count of attempts (and
the time of the last status report), and as long as the clock does not go back the next update makes
the same attempt.  Where calls have come in between, all that happens to the link after them is that the attempt
is given up. -/
theorem Moment.attempt_breaks {τ : Type} [Ring τ] [LinearOrder τ] [IsStrictOrderedRing τ] [Carrier σ τ]
    {k : Nat} {r r₁ : Rig σ τ} {inFlight : List Attempt} {s : Station τ} {a : Attempt}
    (h : Moment k r inFlight) (hs : r.stations[k]? = some s) (hclaim : r.look k = (.attempt a, r₁)) :
    a = ⟨s.link.generation, s.link.phase, s.link.target⟩ ∧ s.link.transport = none ∧
      s.link.attempting = false ∧
      (∀ fault r₂ reaction, Breaks r₁ s.limits a.target id fault r₂ →
        ∃ status r', r.update k id reaction = (.error fault, r') ∧ Silently k r [] r' ∧
          r'.stations[k]? = some { s with link := { s.link with
            status, counters := { s.link.counters with attempts := s.link.counters.attempts + 1 } } } ∧
          ∀ r'' : Rig σ τ, r''.stations[k]? = r'.stations[k]? → r.now ≤ r''.now →
            (r''.look k).1 = .attempt a ∧ ∀ window reaction, r''.update k window reaction =
              (r''.look k).2.attempt k s.limits s.sink a window reaction) ∧
      ∀ window fault r₂ reaction l, Breaks r₁ s.limits a.target window fault r₂ → r₂.link? k = some l →
        r.update k window reaction = (.error fault, r₂.setLink k { l with attempting := false }) := by
  have hsound := h.sound_of_link (show r.link? k = some s.link by simp [link?, hs])
  obtain ⟨⟨hidle, hdue, ha⟩, status, hstation, hquiet⟩ := h.look_claimed hs hclaim
  have hphase : s.link.phase ≠ .connected := by
    rcases hdue with hphase | ⟨hphase, -⟩ <;> simp [hphase]
  have hupdate (window reaction : Rig σ τ → Rig σ τ) :
      r.update k window reaction = r₁.attempt k s.limits s.sink a window reaction := by
    rw [update_of_claim hs (by rw [hclaim]), hclaim]
  refine ⟨ha, hsound.transport_eq_none hphase, hidle, fun fault r₂ reaction hbreaks => ?_,
    fun window fault r₂ reaction l hbreaks hl₂ => ?_⟩
  · obtain ⟨hsilent, hafter⟩ := hbreaks.given_up hsound hidle hphase hstation hquiet
    refine ⟨status, r₂.abort k, by rw [hupdate, hbreaks.attempt], hsilent, hafter,
      fun r'' hstation'' hlater => ?_⟩
    have hs'' := hstation''.trans hafter
    obtain ⟨alive, hlook, -⟩ := silently_look hs''
    have hagain : Link.Sound { s.link with
        status, counters := { s.link.counters with attempts := s.link.counters.attempts + 1 } } inFlight :=
      hsound.congr rfl rfl rfl rfl rfl rfl
    have hclaims : (r''.look k).1 = .attempt a :=
      hlook.trans ((hagain.poll_attempt_iff r''.now alive).mpr ⟨hidle, hdue.mono hlater, ha⟩)
    have hattempt := update_of_claim hs'' hclaims
    exact ⟨hclaims, hattempt⟩
  · rw [hupdate, hbreaks.attempt, abort_eq hl₂]

/-- A host whose name cannot be encoded: the first attempt raises, and the next update makes it again.  If the
link is turned off while it connects, it stays off. -/
theorem attempt_breaks_unencodable :
    ∃ (r r' r'' : Rig (Scripted Int) Int) (a : Attempt) (fault : Fault) (l l' : Link Int), Moment 0 r [] ∧
      (r.look 0).1 = .attempt a ∧ r.update 0 id id = (.error fault, r') ∧
      fault.text = "label empty or too long" ∧ Silently 0 r [] r' ∧ r'.link? 0 = some l ∧
      l.phase = .connecting ∧ l.attempting = false ∧ l.counters = { attempts := 1 } ∧
      (r'.look 0).1 = .attempt a ∧
      r.update 0 (·.setEnabled 0 false) id = (.error fault, r'') ∧ r''.link? 0 = some l' ∧
      l'.phase = .disabled ∧ l'.attempting = false := by
  have hmade := Moment.made
    ({ outside := { clock := 0, connectFault := some "label empty or too long" } } : Rig (Scripted Int) Int)
    ⟨⟨3, 1, defaultLineLimit⟩, {}, 5, 0, .start 1 2 30⟩ "10.0.0.2" 7000 .log rfl
  have hready := (hmade.setEnabled true).look
  obtain ⟨r, r₁, r₂, r₃, s, a, l, hmoment, hs, hclaim, hphase, hnone, hbreaks, hclock, hturned, hl, hoff⟩ :
      ∃ (r r₁ r₂ r₃ : Rig (Scripted Int) Int) (s : Station Int) (a : Attempt) (l : Link Int), Moment 0 r [] ∧
        r.stations[0]? = some s ∧ r.look 0 = (.attempt a, r₁) ∧ s.link.phase = .connecting ∧
        s.link.counters = {} ∧
        Breaks r₁ s.limits a.target id (.breakdown "label empty or too long") r₂ ∧
        r.now ≤ (r.update 0 id id).2.now ∧
        Breaks r₁ s.limits a.target (·.setEnabled 0 false) (.breakdown "label empty or too long") r₃ ∧
        r₃.link? 0 = some l ∧ l.phase = .disabled :=
    ⟨_, _, _, _, _, _, _, hready, rfl, rfl, rfl, rfl, .connecting rfl rfl, le_refl _, .connecting rfl rfl,
      rfl, rfl⟩
  obtain ⟨-, -, hidle, hraises, hmeanwhile⟩ := hmoment.attempt_breaks hs hclaim
  obtain ⟨status, r', hraised, hsilent, hstation, hagain⟩ := hraises _ r₂ id hbreaks
  rw [hraised] at hclock
  have hkept : r'.link? 0 = some { s.link with
      status, counters := { s.link.counters with attempts := s.link.counters.attempts + 1 } } := by
    simp [link?, hstation]
  exact ⟨r, r', _, a, _, _, _, hmoment, congrArg (·.1) hclaim, hraised, rfl, hsilent, hkept, hphase, hidle,
    by rw [hnone], (hagain r' rfl hclock).1, hmeanwhile _ _ r₃ id l hturned hl, link?_setLink hl _, hoff, rfl⟩

end Rig

end PeripheralLink

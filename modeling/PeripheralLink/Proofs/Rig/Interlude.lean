import PeripheralLink.Proofs.Rig.Moment
import PeripheralLink.Proofs.Rig.Traced
/-!
What comes in between the claim of an attempt and its end.  `Interlude` follows the calls and keeps
one bit: whether one of them has voided the attempt, by turning the link off or by changing its
target.  The bit decides what the attempt comes to (`Moment.outcome_of_claimed`), whatever the calls after the
voiding one restore.
-/

namespace PeripheralLink

namespace Link

variable {τ : Type}

/-- How a link stands to what it was when an attempt was claimed: unchanged, or past the generation of
the attempt.  No further attempt has been claimed. -/
structure Since (l₀ : Link τ) (a : Attempt) (l : Link τ) (voided : Bool) : Prop where
  attempts : l.counters.attempts = l₀.counters.attempts
  moved : voided = true → a.generation < l.generation
  kept : voided = false → l = l₀

variable {l₀ l : Link τ} {a : Attempt} {voided : Bool}

theorem Since.setEnabled (h : Since l₀ a l voided) (hsound : l.Sound [a])
    (hcurrent : a.generation = l₀.generation) (now : τ) (on : Bool) :
    Since l₀ a (l.setEnabled now on).1 (voided || (!on && l.phase != .disabled)) where
  attempts := by rw [counters_setEnabled, h.attempts]
  moved := by
    intro hflag
    have hle := (hsound.bound a (by simp)).generation_le
    rw [generation_setEnabled]
    simp only [Bool.or_eq_true, Bool.and_eq_true, Bool.not_eq_true', bne_iff_ne, ne_eq] at hflag
    rcases hflag with hvoided | hoff
    · have hlt := h.moved hvoided
      split <;> omega
    · rw [if_pos hoff]
      omega
  kept := by
    intro hflag
    simp only [Bool.or_eq_false_iff] at hflag
    obtain rfl := h.kept hflag.1
    have hbound := hsound.bound a (by simp)
    have hphase : l.phase ≠ .disabled := (hbound.unmoved hcurrent).1 ▸ hbound.origin_ne_disabled
    have hon : on = true := by simpa [hphase] using hflag.2
    rw [hon, hsound.setEnabled_true hphase]

theorem Since.configure (h : Since l₀ a l voided) (hsound : l.Sound [a])
    (hcurrent : a.generation = l₀.generation) {host : String} {port : Int}
    (htarget : l.target = .of host port) (now : τ) (host' : String) (port' : Int) :
    Since l₀ a (l.configure now (.of host' port')).1 (voided || (host', port') != (host, port)) where
  attempts := by rw [counters_configure, h.attempts]
  moved := by
    intro hflag
    have hle := (hsound.bound a (by simp)).generation_le
    have hle' := le_generation_aimed l (.of host' port')
    rw [generation_configure]
    simp only [Bool.or_eq_true, bne_iff_ne, ne_eq] at hflag
    rcases hflag with hvoided | hchanged
    · have hlt := h.moved hvoided
      omega
    · have hne : (l.aimed (.of host' port')).generation ≠ l.generation := by
        intro hsame
        have heq := (hsound.eq_of_generation_aimed hsame).trans htarget
        simp only [Target.of, Target.mk.injEq, Value.text.injEq, Value.int.injEq] at heq
        exact hchanged (Prod.ext heq.1 heq.2)
      omega
  kept := by
    intro hflag
    simp only [Bool.or_eq_false_iff, bne_eq_false_iff_eq, Prod.mk.injEq] at hflag
    obtain ⟨hvoided, rfl, rfl⟩ := hflag
    obtain rfl := h.kept hvoided
    have hbound := hsound.bound a (by simp)
    have hphase : l.phase ≠ .disabled := (hbound.unmoved hcurrent).1 ▸ hbound.origin_ne_disabled
    exact hsound.configure_self hphase htarget now

end Link

namespace Rig

variable {σ τ : Type} [Carrier σ τ] [Zero τ] [Sub τ] [Mul τ] [LE τ] [DecidableLE τ] [LT τ]
  [DecidableLT τ]

/-- Calls that lead from one rig to another while an attempt of link `k` is in flight, with whether
they have voided it. -/
inductive Interlude (k : Nat) (start : Rig σ τ) : Rig σ τ → Bool → Prop
  | none : Interlude k start start false
  /-- Something happens that is not up to this link; the calls that build and connect the transport
  are among it. -/
  | elsewhere {r r' : Rig σ τ} {voided : Bool} (h : Interlude k start r voided)
      (hlink : r'.link? k = r.link? k) : Interlude k start r' voided
  | setEnabled {r : Rig σ τ} {voided : Bool} {l : Link τ} (h : Interlude k start r voided)
      (hl : r.link? k = some l) (on : Bool) :
      Interlude k start (r.setEnabled k on) (voided || (!on && l.phase != .disabled))
  | configure {r : Rig σ τ} {voided : Bool} {l : Link τ} {host : String} {port : Int}
      (h : Interlude k start r voided) (hl : r.link? k = some l) (htarget : l.target = .of host port)
      (host' : String) (port' : Int) :
      Interlude k start (r.configure k (.of host' port')) (voided || (host', port') != (host, port))
  | update {r : Rig σ τ} {voided : Bool} (h : Interlude k start r voided)
      (window reaction : Rig σ τ → Rig σ τ) :
      Interlude k start (r.update k window reaction).2 voided
  | send {r : Rig σ τ} {voided : Bool} (h : Interlude k start r voided) (m : Message) :
      Interlude k start (r.send k m).2 voided
  | receive {r : Rig σ τ} {voided : Bool} (h : Interlude k start r voided) :
      Interlude k start (r.receive k).2 voided
  | request {r : Rig σ τ} {voided : Bool} (h : Interlude k start r voided) (m : Message) :
      Interlude k start (r.request k m).2 voided

variable {k : Nat} {r start : Rig σ τ} {l₀ l : Link τ} {a : Attempt} {voided : Bool}

/-- As long as the attempt is not voided, the link is exactly as the claim left it; once it is, the
generation is ahead of the attempt for good. -/
theorem Interlude.since (hstart : Moment k start [a]) (hl₀ : start.link? k = some l₀)
    (hcurrent : a.generation = l₀.generation) (h : Interlude k start r voided) :
    Moment k r [a] ∧ ∃ l, r.link? k = some l ∧ l.Sound [a] ∧ l₀.Since a l voided := by
  have hsound {r : Rig σ τ} {l : Link τ} (hmoment : Moment k r [a]) (hl : r.link? k = some l) :
      l.Sound [a] := hmoment.sound_of_link hl
  induction h with
  | none => exact ⟨hstart, l₀, hl₀, hsound hstart hl₀, rfl, by simp, fun _ => rfl⟩
  | elsewhere _ hlink ih =>
      obtain ⟨hmoment, l, hl, hrest⟩ := ih
      exact ⟨hmoment.elsewhere hlink, l, hlink.trans hl, hrest⟩
  | @setEnabled r _ _ _ hl on ih =>
      obtain ⟨hmoment, l, hl', hlink, hsince⟩ := ih
      obtain rfl := Option.some.inj (hl'.symm.trans hl)
      have hnext := hmoment.setEnabled on
      have hl'' := link?_change hl (·.setEnabled r.now on)
      exact ⟨hnext, _, hl'', hsound hnext hl'', hsince.setEnabled hlink hcurrent _ on⟩
  | @configure r _ _ _ _ _ hl htarget host' port' ih =>
      obtain ⟨hmoment, l, hl', hlink, hsince⟩ := ih
      obtain rfl := Option.some.inj (hl'.symm.trans hl)
      have hnext := hmoment.configure host' port'
      have hl'' := link?_change hl (·.configure r.now (.of host' port'))
      exact ⟨hnext, _, hl'', hsound hnext hl'',
        hsince.configure hlink hcurrent htarget _ host' port'⟩
  | update _ window reaction ih =>
      obtain ⟨hmoment, l, hl, hlink, hsince⟩ := ih
      rw [update_of_attempting hl hlink.attempting_of_single]
      exact ⟨hmoment, l, hl, hlink, hsince⟩
  | send _ m ih =>
      obtain ⟨hmoment, l, hl, hlink, hsince⟩ := ih
      rw [send_of_ne_connected hl (hlink.ne_connected hlink.attempting_of_single)]
      exact ⟨hmoment, l, hl, hlink, hsince⟩
  | receive _ ih =>
      obtain ⟨hmoment, l, hl, hlink, hsince⟩ := ih
      rw [receive_of_ne_connected hl (hlink.ne_connected hlink.attempting_of_single)]
      exact ⟨hmoment, l, hl, hlink, hsince⟩
  | request _ m ih =>
      obtain ⟨hmoment, l, hl, hlink, hsince⟩ := ih
      rw [request_of_ne_connected hl (hlink.ne_connected hlink.attempting_of_single)]
      exact ⟨hmoment, l, hl, hlink, hsince⟩

/-- Turning the link off and on again voids the attempt, though the link ends up wanted as before. -/
theorem Interlude.toggled (h : Interlude k start r voided) (hl : r.link? k = some l)
    (hphase : l.phase ≠ .disabled) :
    Interlude k start ((r.setEnabled k false).setEnabled k true) true := by
  have hoff := h.setEnabled hl false
  have hon := hoff.setEnabled (link?_change hl _) true
  have hflag : (l.phase != .disabled) = true := by simpa using hphase
  simpa [hflag] using hon

/-- What a poll that claims an attempt has done to the link. -/
theorem claim_of_look {inFlight : List Attempt} (h : Moment k r inFlight) (hl : r.link? k = some l)
    (hclaim : (r.look k).1 = .attempt a) :
    inFlight = [] ∧ a = ⟨l.generation, l.phase, l.target⟩ ∧
      ∃ l₀, (r.look k).2.link? k = some l₀ ∧ l₀.Sound [a] ∧ l₀.phase = l.phase ∧ l₀.target = l.target ∧
        l₀.generation = l.generation ∧ l₀.counters.attempts = l.counters.attempts + 1 := by
  have hsound := h.sound_of_link hl
  obtain ⟨alive, hpolled, hlink⟩ := link?_look hl
  obtain ⟨hidle, ha, heq⟩ := hsound.poll_attempt (hpolled.symm.trans hclaim)
  have hnil := hsound.nil_of_not_attempting hidle
  have hnext := hsound.poll r.now alive
  rw [← hpolled, hclaim, hnil] at hnext
  refine ⟨hnil, ha, _, hlink, hnext, ?_⟩
  rw [heq]
  rcases Link.reportStatus_cases l.claim.1 r.now with hstatus | hstatus <;> rw [hstatus] <;>
    exact ⟨rfl, rfl, rfl, rfl⟩

/-- What an attempt comes to.  Its transport is built to the target of the claim; no other attempt
begins meanwhile; if it has been voided, its transport is disconnected and nothing else changes; and if
not, the link still stands where the attempt was claimed, and the outcome is applied: a transport that has
not connected is disconnected. -/
theorem Moment.outcome_of_claimed {inFlight : List Attempt} {s : Station τ} {r₁ : Rig σ τ}
    (h : Moment k r inFlight) (hs : r.stations[k]? = some s) (hclaim : r.look k = (.attempt a, r₁)) :
    ∃ host port, s.link.target = .of host port ∧
      a = ⟨s.link.generation, s.link.phase, .of host port⟩ ∧
      (∀ window reaction, r.update k window reaction =
        match r₁.via fun o => Carrier.build o s.limits (.of host port) with
        | (.error fault, r) => (.error fault, r.abort k)
        | (.ok id, r) =>
          match (window (r.via fun o => ((), Carrier.approach o id)).2).via
              fun o => Carrier.connect o id with
          | (.error fault, r) => (.error fault, r.abort k)
          | (.ok up, r) =>
            match r.conclude k a id up with
            | (some e, r) => (.ok (), r.tell s.sink e reaction)
            | (none, r) => (.ok (), r)) ∧
      ∀ r₂ voided, Interlude k r₁ r₂ voided → ∃ l, r₂.link? k = some l ∧
        l.attempting = true ∧ l.counters.attempts = s.link.counters.attempts + 1 ∧
        (∀ window reaction, r₂.update k window reaction = (.ok (), r₂)) ∧
        (∀ id up, forgetting (r₂.traced.conclude k a id up) = r₂.conclude k a id up) ∧
        (voided = true → ∀ id up, (r₂.traced.conclude k a id up).2.calls = [.disconnect id] ∧
          r₂.conclude k a id up = (none, (r₂.setLink k { l with attempting := false }).perform
            [.release id, .report (.stale (.of host port))])) ∧
        (voided = false →
          l.enabled = true ∧ l.phase = s.link.phase ∧ l.target = .of host port ∧ ∀ id,
            (r₂.traced.conclude k a id true).2.calls = [] ∧
            (r₂.traced.conclude k a id false).2.calls = [.disconnect id] ∧
            (∃ reports : List (LinkNotice τ), r₂.conclude k a id true =
              (some (if s.link.phase = .reconnecting then .reconnected else .connected),
                (r₂.setLink k (l.risen r₂.now s.link.phase id)).perform (reports.map .report))) ∧
            (∃ reports : List (LinkNotice τ), r₂.conclude k a id false =
              (none, (r₂.setLink k (l.fallen r₂.now s.link.phase)).perform
                (.release id :: reports.map .report)))) := by
  have hl : r.link? k = some s.link := by simp [link?, hs]
  obtain ⟨rfl, rfl, l₀, hl₀, hsound₀, hphase, htarget, hgeneration, hattempts⟩ :=
    claim_of_look h hl (by rw [hclaim])
  rw [hclaim] at hl₀
  obtain ⟨host, port, hof⟩ := hsound₀.target_of
  have hof' : s.link.target = .of host port := htarget.symm.trans hof
  have hmoment : Moment k r₁ [⟨s.link.generation, s.link.phase, s.link.target⟩] := by
    have hlooked := h.look
    rw [hclaim] at hlooked
    exact hlooked
  refine ⟨host, port, hof', by rw [hof'], ?_, ?_⟩
  · intro window reaction
    have hupdate : r.update k window reaction = r₁.attempt k s.limits s.sink
        ⟨s.link.generation, s.link.phase, s.link.target⟩ window reaction := by
      simp [Rig.update, hs, hclaim]
    exact hupdate.trans (hof' ▸ rfl)
  · intro r₂ voided hinterlude
    obtain ⟨_, l, hl₂, hsound, hsince⟩ := hinterlude.since hmoment hl₀ hgeneration.symm
    have hattempting := hsound.attempting_of_single
    have hcalls (id : Nat) (up : Bool) := calls_conclude (r := r₂.traced) (k := k) hl₂
      ⟨s.link.generation, s.link.phase, s.link.target⟩ id up
    simp only [calls_traced, List.nil_append] at hcalls
    refine ⟨l, hl₂, hattempting, hsince.attempts.trans hattempts,
      update_of_attempting hl₂ hattempting, fun id up => r₂.forget_conclude_traced k _ id up, ?_, ?_⟩
    · intro hvoided id up
      have hstale := Nat.ne_of_lt (hsince.moved hvoided)
      constructor
      · rw [hcalls, Link.settle_of_ne hstale]
        rfl
      · rw [conclude_eq hl₂, Link.settle_of_ne hstale, hof']
    · intro hkept
      obtain rfl := hsince.kept hkept
      have hne : l.phase ≠ .disabled := by
        rw [hphase]
        exact (hsound.bound _ (List.mem_singleton.mpr rfl)).origin_ne_disabled
      refine ⟨(hsound.enabled_of_ne_disabled hne).1, hphase, hof, ?_⟩
      intro id
      obtain ⟨ups, hup⟩ := Link.settle_up (a := ⟨_, _, s.link.target⟩) hgeneration.symm r₂.now id
      obtain ⟨downs, hdown⟩ := Link.settle_down (a := ⟨_, _, s.link.target⟩) hgeneration.symm r₂.now id
      refine ⟨?_, ?_, ⟨ups, by rw [conclude_eq hl₂, hup]⟩, ⟨downs, by rw [conclude_eq hl₂, hdown]⟩⟩
      · rw [hcalls, show l.settle r₂.traced.now _ id true = _ from hup]
        exact calls_reports ups
      · rw [hcalls, show l.settle r₂.traced.now _ id false = _ from hdown, List.flatMap_cons, calls_reports]
        rfl

/-- A link turned off and on again while it connects: the attempt is void, though the link is wanted
again. -/
theorem outcome_of_toggled :
    ∃ (r r₁ r₂ : Rig (Scripted Int) Int) (a : Attempt) (l : Link Int), Moment 0 r [] ∧
      r.look 0 = (.attempt a, r₁) ∧ Interlude 0 r₁ r₂ true ∧ r₂.link? 0 = some l ∧
      l.enabled = true ∧ ∀ id up, (r₂.traced.conclude 0 a id up).2.calls = [.disconnect id] ∧
        r₂.conclude 0 a id up = (none, (r₂.setLink 0 { l with attempting := false }).perform
          [.release id, .report (.stale (.of "10.0.0.2" 7000))]) := by
  have hmade := Moment.made ({ outside := { clock := 0 } } : Rig (Scripted Int) Int)
    ⟨⟨3, 1, defaultLineLimit⟩, {}, 5, 0, .start 1 2 30⟩ "10.0.0.2" 7000 .log rfl
  have hready := (hmade.setEnabled true).look
  obtain ⟨host, port, htarget, -, -, hinterlude⟩ := hready.outcome_of_claimed rfl rfl
  cases htarget
  obtain ⟨l, hl, -, -, -, -, hvoided, -⟩ := hinterlude _ true (Interlude.none.toggled rfl nofun)
  refine ⟨_, _, _, _, l, hready, rfl, Interlude.none.toggled rfl nofun, hl, ?_, hvoided rfl⟩
  cases hl
  rfl

end Rig

end PeripheralLink

import Mathlib.Algebra.Order.Ring.Int
import Mathlib.Algebra.Order.Ring.Unbundled.Basic
import PeripheralLink.Proofs.Rig.Retries
/-!
The schedule of an outage.  An `Outage` begins where a link begins to wait with the initial delay, and
goes on for as long as every attempt to reconnect fails and the link is left on with its target.  With
exact arithmetic the delay after `n` failures is `min (initial * multiplier ^ n) cap`, an update starts
the next attempt exactly when that long has passed since the link last began to wait, and a success makes
the delay the initial one again (`Moment.schedule`).
-/

namespace PeripheralLink

namespace Backoff

variable {τ : Type} [Ring τ] [LinearOrder τ]

theorem delay_advance (b : Backoff τ) : b.advance.delay = min (b.delay * b.multiplier) b.cap := by
  rw [min_comm, min_def_lt]
  rfl

/-- A delay that has reached the cap stays there, so capping it at each failure comes to capping it
once. -/
theorem delay_after [IsStrictOrderedRing τ] (b : Backoff τ) (hinitial : 0 ≤ b.initial)
    (hcap : b.initial ≤ b.cap) (hmultiplier : 1 ≤ b.multiplier) (failed : Nat) :
    (b.after failed).delay = min (b.initial * b.multiplier ^ failed) b.cap := by
  induction failed with
  | zero => simp [hcap]
  | succ failed ih =>
      have hgrow : b.cap ≤ b.cap * b.multiplier :=
        le_mul_of_one_le_right (hinitial.trans hcap) hmultiplier
      have hscale := min_mul_of_nonneg (b.initial * b.multiplier ^ failed) b.cap
        (zero_le_one.trans hmultiplier)
      rw [after_succ, delay_advance, ih, multiplier_after, cap_after, hscale, min_assoc,
        min_eq_right hgrow, mul_assoc, ← pow_succ]

end Backoff

namespace Link

variable {τ : Type} [Mul τ] [LT τ] [DecidableLT τ]

/-- A link in an outage. -/
structure Waiting (l : Link τ) (inFlight : List Attempt) (failed : Nat) (since : τ) : Prop where
  phase : l.phase = .reconnecting
  entered : l.enteredAt = since
  backoff_eq : l.backoff = l.backoff.after failed
  current : ∀ a ∈ inFlight, a.generation = l.generation

end Link

namespace Rig

variable {σ τ : Type} [Carrier σ τ]

theorem outside_reports (r : Rig σ τ) (reports : List (LinkNotice τ)) :
    (r.perform (reports.map .report)).outside = r.outside := by
  induction reports generalizing r with
  | nil => rfl
  | cons n reports ih => exact ih (r.report (.link n))

section
variable [Zero τ] [Sub τ] [LE τ] [DecidableLE τ] [LT τ] [DecidableLT τ]

/-- The first part of an update of a link that waits: it claims an attempt exactly when the delay has
passed, and leaves the outside alone. -/
theorem look_of_reconnecting {k : Nat} {r : Rig σ τ} {l : Link τ} (hl : r.link? k = some l)
    (hsound : l.Sound []) (hwaiting : l.phase = .reconnecting) :
    ∃ r' l', r.look k = (if l.backoff.delay ≤ r.now - l.enteredAt
        then .attempt ⟨l.generation, l.phase, l.target⟩ else .quiet, r') ∧
      r'.outside = r.outside ∧ r'.link? k = some l' ∧ l'.enabled = l.enabled ∧ l'.target = l.target := by
  have hidle := hsound.not_attempting
  have hprobe : l.probe? r.now = none := by simp [hsound.probe?_eq hidle, hwaiting]
  have htransport := hsound.transport_eq_none (by simp [hwaiting])
  obtain ⟨status, reports, hpoll⟩ := Link.poll_of_idle hidle r.now true
  have hlook : r.look k = ((l.poll r.now true).2.2,
      (r.setLink k (l.poll r.now true).1).perform (l.poll r.now true).2.1) := by
    simp only [Rig.look, hl, hprobe]
  have henabled := (hsound.enabled_of_ne_disabled (by simp [hwaiting])).1
  have hadvance : l.advance r.now true =
      if l.backoff.delay ≤ r.now - l.enteredAt then l.claim else (l, [], .quiet) := by
    simp [Link.advance, hwaiting, henabled]
  have houtside (l' : Link τ) : ((r.setLink k l').perform (reports.map .report)).outside = r.outside :=
    outside_reports _ reports
  have hlink (l' : Link τ) : ((r.setLink k l').perform (reports.map .report)).link? k = some l' :=
    (link?_perform _ _ _).trans (link?_setLink hl l')
  rw [hlook, hpoll, hadvance]
  split
  · simp only [Link.claim, Link.giveUp, htransport, Option.toList_none, List.map_nil, List.nil_append]
    exact ⟨_, _, rfl, houtside _, hlink _, rfl, rfl⟩
  · exact ⟨_, _, rfl, houtside _, hlink _, rfl, rfl⟩

variable [Mul τ]

/-- An outage of link `k`: the attempts in flight, how many attempts to reconnect have failed in it, and
when the link last began to wait. -/
inductive Outage (k : Nat) : Rig σ τ → List Attempt → Nat → τ → Prop
  | begun {r r' : Rig σ τ} {l l' : Link τ} {inFlight inFlight' : List Attempt} {cause : Cause}
      {due : Option Edge} (h : Moment k r inFlight) (hturn : Turn k r inFlight cause due r' inFlight')
      (hl : r.link? k = some l) (hl' : r'.link? k = some l') (hbefore : l.phase ≠ .reconnecting)
      (hafter : l'.phase = .reconnecting) (hdelay : l'.backoff.delay = l'.backoff.initial) :
      Outage k r' inFlight' 0 r.now
  /-- Something happens that is not up to this link: time passes, a transport is built or fails to
  connect, another link is called. -/
  | elsewhere {r r' : Rig σ τ} {inFlight : List Attempt} {failed : Nat} {since : τ}
      (h : Outage k r inFlight failed since) (hlink : r'.link? k = r.link? k) :
      Outage k r' inFlight failed since
  | turn {r r' : Rig σ τ} {l l' : Link τ} {inFlight inFlight' : List Attempt} {cause : Cause}
      {due : Option Edge} {failed : Nat} {since : τ} (h : Outage k r inFlight failed since)
      (hturn : Turn k r inFlight cause due r' inFlight') (hcause : ∀ origin, cause ≠ .attempt origin)
      (hl : r.link? k = some l) (hl' : r'.link? k = some l') (henabled : l'.enabled = true)
      (htarget : l'.target = l.target) : Outage k r' inFlight' failed since
  | failed {r : Rig σ τ} {a : Attempt} {inFlight : List Attempt} {failed : Nat} {since : τ}
      (h : Outage k r (a :: inFlight) failed since) (id : Nat) :
      Outage k (r.conclude k a id false).2 inFlight (failed + 1) r.now

namespace Outage

variable {k failed : Nat} {r r' : Rig σ τ} {l : Link τ} {inFlight : List Attempt} {since : τ}

theorem moment (h : Outage k r inFlight failed since) : Moment k r inFlight := by
  induction h with
  | begun h hturn _ _ _ _ _ => exact hturn.moment h
  | elsewhere _ hlink ih => exact ih.elsewhere hlink
  | turn _ hturn _ _ _ _ _ ih => exact hturn.moment ih
  | @failed _ a inFlight _ _ _ id ih => exact (Turn.conclude a inFlight id false).moment ih

theorem via {α : Type} (h : Outage k r inFlight failed since) (call : σ → α × σ) :
    Outage k (r.via call).2 inFlight failed since :=
  h.elsewhere rfl

/-- Where the link stands, by induction on the outage. -/
theorem waiting (h : Outage k r inFlight failed since) (hl : r.link? k = some l) :
    l.Waiting inFlight failed since := by
  induction h generalizing l with
  | @begun r r' l₀ l' inFlight inFlight' cause due h hturn hl₀ hl' hbefore hafter hdelay =>
      obtain rfl := Option.some.inj (hl'.symm.trans hl)
      obtain ⟨l₁, hl₁, hsound⟩ := h.sound
      obtain rfl := Option.some.inj (hl₁.symm.trans hl₀)
      have hfresh := Backoff.eq_after_zero hdelay
      rcases hturn.cases h hl₀ hl' with hunsettled | ⟨a, id, up, -, rfl, -, rfl⟩
      · rcases hunsettled.reconnecting hafter with ⟨hwaiting, -⟩ | ⟨hlost, hentered⟩
        · exact absurd hwaiting hbefore
        · have hnone : inFlight = [] := by
            apply hsound.nil_of_not_attempting
            rw [← Bool.not_eq_true]
            exact fun hattempting => hsound.ne_connected hattempting hlost
          refine ⟨hafter, hentered, hfresh, ?_⟩
          intro a ha
          rcases hunsettled.claimed a ha with hold | hnew
          · simp [hnone] at hold
          · exact hnew
      · obtain ⟨-, hfallen⟩ := hsound.fallen_of_settle hbefore hafter
        have hsingle : l₁.Sound ([] ++ a :: inFlight') := hsound
        refine ⟨hafter, ?_, hfresh, ?_⟩
        · rw [hfallen]
          rfl
        · simp [hsingle.eq_single.2.1]
  | elsewhere _ hlink ih => exact ih (hlink.symm.trans hl)
  | turn h hturn hcause hl₀ hl' henabled htarget ih =>
      obtain rfl := Option.some.inj (hl'.symm.trans hl)
      have hwaiting := ih hl₀
      rcases hturn.cases h.moment hl₀ hl' with hunsettled | ⟨a, _, _, hattempt, _⟩
      · obtain ⟨hphase, hgeneration⟩ := hunsettled.waits hwaiting.phase henabled htarget
        refine ⟨hphase, ?_, ?_, ?_⟩
        · rcases hunsettled.reconnecting hphase with ⟨-, hentered⟩ | ⟨hconnected, -⟩
          · exact hentered.trans hwaiting.entered
          · exact nomatch hwaiting.phase.symm.trans hconnected
        · rw [hunsettled.backoff_eq]
          exact hwaiting.backoff_eq
        · intro a ha
          rcases hunsettled.claimed a ha with hold | hnew
          · exact (hwaiting.current a hold).trans hgeneration.symm
          · exact hnew
      · exact absurd hattempt (hcause a.origin)
  | @failed r a inFlight failed since h id ih =>
      obtain ⟨l₀, hl₀, hsound⟩ := h.moment.sound
      have hwaiting := ih hl₀
      have hcurrent := hwaiting.current a List.mem_cons_self
      have hbound := hsound.bound a List.mem_cons_self
      have horigin : a.origin = .reconnecting := (hbound.unmoved hcurrent).1.symm.trans hwaiting.phase
      have hsingle : l₀.Sound ([] ++ a :: inFlight) := hsound
      obtain ⟨reports, hdown⟩ := Link.settle_down hcurrent r.now id
      obtain rfl := Option.some.inj ((link?_conclude hl₀ a id false).symm.trans hl)
      rw [hdown]
      refine ⟨rfl, rfl, ?_, ?_⟩
      · simpa [Link.fallen, horigin] using Backoff.advance_eq_after hwaiting.backoff_eq
      · simp [hsingle.eq_single.2.1]

/-- The first part of an update goes on with an outage. -/
theorem look (h : Outage k r [] failed since) (hl : r.link? k = some l) :
    ∃ polled r', r.look k = (polled, r') ∧ r'.outside = r.outside ∧
      Outage k r' polled.claimed failed since ∧
      polled = if l.stats.delay ≤ r.now - since then .attempt ⟨l.generation, .reconnecting, l.target⟩
        else .quiet := by
  have hsound := h.moment.sound_of_link hl
  have hwaiting := h.waiting hl
  obtain ⟨r', l', hlook, houtside, hlink, henabled, htarget⟩ :=
    look_of_reconnecting hl hsound hwaiting.phase
  have hon := (hsound.enabled_of_ne_disabled (by simp [hwaiting.phase])).1
  have hturn : Turn k r [] _ _ _ _ := .look []
  rw [hlook, List.append_nil] at hturn
  rw [hwaiting.phase, hwaiting.entered] at hlook hturn
  exact ⟨_, r', hlook, houtside, h.turn hturn nofun hl hlink (henabled.trans hon) htarget, rfl⟩

end Outage

end

section
variable [Ring τ] [LinearOrder τ] [IsStrictOrderedRing τ]

/-- The schedule of reconnecting, with exact arithmetic.  In an outage in which `failed` attempts to
reconnect have failed, the wait before the next one is `min (initial * multiplier ^ failed) cap`, counted
from when the link last began to wait.  An update before that leaves the outside alone, an update from
then on starts the attempt, and while that is in flight an update does nothing.  An attempt that
succeeds, in an outage or before one, makes the delay the initial one. -/
theorem Moment.schedule {k : Nat} {r : Rig σ τ} {s : Station τ} {inFlight : List Attempt}
    (h : Moment k r inFlight) (hs : r.stations[k]? = some s)
    (hinitial : 0 ≤ s.link.backoff.initial) (hcap : s.link.backoff.initial ≤ s.link.backoff.cap)
    (hmultiplier : 1 ≤ s.link.backoff.multiplier) :
    (∀ failed since, Outage k r inFlight failed since →
      s.link.phase = .reconnecting ∧ s.link.enteredAt = since ∧
      s.link.stats.delay =
        min (s.link.backoff.initial * s.link.backoff.multiplier ^ failed) s.link.backoff.cap ∧
      (inFlight ≠ [] → ∀ window reaction, r.update k window reaction = (.ok (), r)) ∧
      (inFlight = [] → r.now - since < s.link.stats.delay →
        ∃ r', Outage k r' [] failed since ∧ r'.outside = r.outside ∧
          ∀ window reaction, r.update k window reaction = (.ok (), r')) ∧
      (inFlight = [] → s.link.stats.delay ≤ r.now - since →
        ∃ a r', Outage k r' [a] failed since ∧ a.origin = .reconnecting ∧ a.target = s.link.target ∧
          ∀ window reaction, r.update k window reaction =
            r'.attempt k s.limits s.sink a window reaction)) ∧
    ∀ a id, a ∈ inFlight → a.generation = s.link.generation →
      ∃ l', (r.conclude k a id true).2.link? k = some l' ∧ l'.phase = .connected ∧
        l'.stats.delay = l'.backoff.initial := by
  have hl : r.link? k = some s.link := by simp [link?, hs]
  obtain ⟨l, hl', hsound⟩ := h.sound
  obtain rfl := Option.some.inj (hl'.symm.trans hl)
  refine ⟨?_, ?_⟩
  · intro failed since houtage
    have hwaiting := houtage.waiting hl
    have hdelay : s.link.stats.delay =
        min (s.link.backoff.initial * s.link.backoff.multiplier ^ failed) s.link.backoff.cap := by
      rw [← Backoff.delay_after _ hinitial hcap hmultiplier]
      exact congrArg Backoff.delay hwaiting.backoff_eq
    refine ⟨hwaiting.phase, hwaiting.entered, hdelay, ?_, ?_, ?_⟩
    · intro hbusy
      apply update_of_attempting hl
      rw [← Bool.not_eq_false]
      exact fun hidle => hbusy (hsound.nil_of_not_attempting hidle)
    · rintro rfl hearly
      obtain ⟨polled, r', hlook, houtside, hgoes, hpolled⟩ := houtage.look hl
      rw [if_neg (not_le.mpr hearly)] at hpolled
      subst hpolled
      refine ⟨r', hgoes, houtside, ?_⟩
      intro window reaction
      simp only [Rig.update, hs, hlook]
    · rintro rfl hdue
      obtain ⟨polled, r', hlook, -, hgoes, hpolled⟩ := houtage.look hl
      rw [if_pos hdue] at hpolled
      subst hpolled
      refine ⟨_, r', hgoes, rfl, rfl, ?_⟩
      intro window reaction
      simp only [Rig.update, hs, hlook]
  · intro a id _ hcurrent
    obtain ⟨reports, hup⟩ := Link.settle_up hcurrent r.now id
    rw [link?_conclude hl a id true, hup]
    exact ⟨_, rfl, rfl, rfl⟩

end

/-- An outage in which one attempt to reconnect has failed, two seconds after that. -/
theorem schedule_second_attempt :
    ∃ (r : Rig (Scripted Int) Int) (s : Station Int), Moment 0 r [] ∧ r.stations[0]? = some s ∧
      Outage 0 r [] 1 1 ∧ r.now = 3 ∧ s.link.stats.delay = 2 ∧
      ∃ a r', Outage 0 r' [a] 1 1 ∧ ∀ window reaction,
        r.update 0 window reaction = r'.attempt 0 s.limits s.sink a window reaction := by
  have hmade := Moment.made ({ outside := { clock := 0 } } : Rig (Scripted Int) Int)
    ⟨⟨3, 1, defaultLineLimit⟩, {}, 5, 0, .start 1 2 30⟩ "10.0.0.2" 7000 .log rfl
  have hclaimed := (hmade.setEnabled true).look.look
  have hbegun := Outage.begun hclaimed (.conclude _ [] 0 false) rfl rfl nofun rfl rfl
  have hdue := hbegun.via fun o => ((), { o with clock := 1 })
  have hagain := (hdue.turn (.look []) nofun rfl rfl rfl rfl).failed 1
  have hlater := hagain.via fun o => ((), { o with clock := 3 })
  obtain ⟨hwaits, -⟩ := hlater.moment.schedule rfl (by decide) (by decide) (by decide)
  obtain ⟨-, -, hdelay, -, -, hstarts⟩ := hwaits 1 1 hlater
  obtain ⟨a, r', hgoes, -, -, hupdate⟩ := hstarts rfl (by decide)
  exact ⟨_, _, hlater.moment, rfl, hlater, rfl, hdelay, a, r', hgoes, hupdate⟩

end Rig

end PeripheralLink

import Mathlib.Logic.Function.Iterate
import PeripheralLink.Proofs.Rig.Chronicle
/-!
What the delay between attempts follows from.  Only the end of an attempt that still counts changes it:
`Turn.cases` takes a hold of the lock apart into those that settle an attempt and those that do not, and
the second kind leaves the backoff alone.  `Retries` counts along a run the attempts to reconnect that
have failed since the last success; turning the link off, changing its target and attempts that break
down or are voided leave the count as it is.
-/

namespace PeripheralLink

namespace Backoff

variable {τ : Type} [Mul τ] [LT τ] [DecidableLT τ]

/-- The backoff once a number of attempts have failed since the last success. -/
def after (b : Backoff τ) (failed : Nat) : Backoff τ := advance^[failed] b.reset

@[simp] theorem after_zero (b : Backoff τ) : b.after 0 = b.reset := rfl

theorem after_succ (b : Backoff τ) (failed : Nat) : b.after (failed + 1) = (b.after failed).advance :=
  Function.iterate_succ_apply' advance failed b.reset

theorem cap_after (b : Backoff τ) (failed : Nat) : (b.after failed).cap = b.cap := by
  induction failed with
  | zero => rfl
  | succ failed ih =>
      rw [after_succ]
      exact ih

theorem multiplier_after (b : Backoff τ) (failed : Nat) :
    (b.after failed).multiplier = b.multiplier := by
  induction failed with
  | zero => rfl
  | succ failed ih =>
      rw [after_succ]
      exact ih

@[simp] theorem after_advance (b : Backoff τ) (failed : Nat) : b.advance.after failed = b.after failed :=
  rfl

/-- A backoff whose delay is the initial one. -/
theorem eq_after_zero {b : Backoff τ} (h : b.delay = b.initial) : b = b.after 0 := by
  cases b
  cases h
  rfl

/-- One more failure. -/
theorem advance_eq_after {b : Backoff τ} {failed : Nat} (h : b = b.after failed) :
    b.advance = b.advance.after (failed + 1) := by
  rw [after_advance, after_succ, ← h]

end Backoff

namespace Link

variable {τ : Type} {l l' : Link τ} {inFlight : List Attempt}

/-- What a hold of the lock that settles no attempt does: the delay stays, no connection is made, and
only the loss of one enters the reconnecting phase.  A link that stays on with its target goes on
waiting, in the same generation. -/
structure Unsettled (l : Link τ) (inFlight : List Attempt) (now : τ) (l' : Link τ)
    (inFlight' : List Attempt) : Prop where
  backoff_eq : l'.backoff = l.backoff
  connected : l'.phase = .connected → l.phase = .connected
  reconnecting : l'.phase = .reconnecting →
    l.phase = .reconnecting ∧ l'.enteredAt = l.enteredAt ∨ l.phase = .connected ∧ l'.enteredAt = now
  waits : l.phase = .reconnecting → l'.enabled = true → l'.target = l.target →
    l'.phase = .reconnecting ∧ l'.generation = l.generation
  claimed : ∀ a ∈ inFlight', a ∈ inFlight ∨ a.generation = l'.generation

/-- Whatever keeps the five fields. -/
theorem Unsettled.kept {inFlight' : List Attempt} {now : τ} (hbackoff : l'.backoff = l.backoff)
    (hphase : l'.phase = l.phase) (hentered : l'.enteredAt = l.enteredAt)
    (hgeneration : l'.generation = l.generation)
    (hclaimed : ∀ a ∈ inFlight', a ∈ inFlight ∨ a.generation = l'.generation) :
    l.Unsettled inFlight now l' inFlight' where
  backoff_eq := hbackoff
  connected hconnected := hphase ▸ hconnected
  reconnecting hwaiting := .inl ⟨hphase ▸ hwaiting, hentered⟩
  waits hwaiting _ _ := ⟨hphase.trans hwaiting, hgeneration⟩
  claimed := hclaimed

/-- Changing the wish or the target. -/
theorem Directed.unsettled [Sub τ] [Mul τ] [LE τ] [LT τ] [DecidableLT τ] {now : τ} {wish : Bool}
    {target : Target} {calls : List Call} (h : l.Directed now wish target calls l')
    (hself : l.phase = .reconnecting → wish = true → target = l.target → l' = l) :
    l.Unsettled inFlight now l' inFlight := by
  have hwaits (hwaiting : l.phase = .reconnecting) (hon : wish = true) (hsame : target = l.target) :
      l'.phase = .reconnecting ∧ l'.generation = l.generation := by
    rw [hself hwaiting hon hsame]
    exact ⟨hwaiting, rfl⟩
  cases h with
  | off _ _ _ => exact ⟨rfl, nofun, nofun, hwaits, fun _ => .inl⟩
  | on _ _ _ => exact ⟨rfl, nofun, nofun, hwaits, fun _ => .inl⟩
  | stay _ _ => exact ⟨rfl, id, fun hwaiting => .inl ⟨hwaiting, rfl⟩, hwaits, fun _ => .inl⟩

section
variable [Sub τ] [LE τ] [DecidableLE τ]

theorem Sound.unsettled_advance (h : l.Sound inFlight) (now : τ) (alive : Bool) :
    l.Unsettled inFlight now (l.advance now alive).1
      ((l.advance now alive).2.2.claimed ++ inFlight) := by
  rcases h.advance_cases now alive with
    ⟨heq, _⟩ | ⟨hphase, heq⟩ | ⟨_, heq⟩ | ⟨_, _, _, heq⟩ | ⟨hphase, _, _, heq⟩
  · rw [heq]
    exact .kept rfl rfl rfl rfl fun _ => .inl
  · rw [heq]
    refine ⟨rfl, nofun, nofun, ?_, fun _ => .inl⟩
    intro hwaiting
    exact nomatch hphase.symm.trans hwaiting
  · rw [heq]
    refine .kept rfl rfl rfl rfl ?_
    intro a ha
    rcases List.mem_cons.mp ha with rfl | ha
    · exact .inr rfl
    · exact .inl ha
  · rw [heq]
    exact .kept rfl rfl rfl rfl fun _ => .inl
  · rw [heq]
    refine ⟨rfl, nofun, fun _ => .inr ⟨hphase, rfl⟩, ?_, fun _ => .inl⟩
    intro hwaiting
    exact nomatch hphase.symm.trans hwaiting

variable [Zero τ] [LT τ] [DecidableLT τ]

theorem Sound.unsettled_poll (h : l.Sound inFlight) (now : τ) (alive : Bool) :
    l.Unsettled inFlight now (l.poll now alive).1 ((l.poll now alive).2.2.claimed ++ inFlight) := by
  cases hidle : l.attempting with
  | true =>
      rw [poll_of_attempting hidle]
      exact .kept rfl rfl rfl rfl fun _ => .inl
  | false =>
      obtain ⟨status, reports, hpoll⟩ := poll_of_idle hidle now alive
      obtain ⟨hbackoff, hconnected, hreconnecting, hwaits, hclaimed⟩ := h.unsettled_advance now alive
      rw [hpoll]
      exact ⟨hbackoff, hconnected, hreconnecting, hwaits, hclaimed⟩

end

theorem unsettled_accept (l : Link τ) (line : Option (List UInt8)) (inFlight : List Attempt) (now : τ) :
    l.Unsettled inFlight now (l.accept line).2.1 inFlight := by
  unfold accept
  split
  · exact .kept rfl rfl rfl rfl fun _ => .inl
  · split <;> exact .kept rfl rfl rfl rfl fun _ => .inl

/-- How many attempts to reconnect have failed since the last success, once an attempt has ended. -/
def failedAfter (l : Link τ) (a : Attempt) (up : Bool) (failed : Nat) : Nat :=
  if a.generation ≠ l.generation then failed
  else if up then 0
  else if a.origin = .reconnecting then failed + 1 else failed

/-- The backoff follows from the count of failures, which is zero while the link is connected. -/
structure Paced [Mul τ] [LT τ] [DecidableLT τ] (l : Link τ) (failed : Nat) : Prop where
  backoff_eq : l.backoff = l.backoff.after failed
  connected : l.phase = .connected → failed = 0

section
variable [Mul τ] [LT τ] [DecidableLT τ] {failed : Nat}

theorem Unsettled.paced {inFlight' : List Attempt} {now : τ} (h : l.Unsettled inFlight now l' inFlight')
    (hpaced : l.Paced failed) : l'.Paced failed where
  backoff_eq := by
    rw [h.backoff_eq]
    exact hpaced.backoff_eq
  connected hconnected := hpaced.connected (h.connected hconnected)

theorem Paced.settle (h : l.Paced failed) (now : τ) (a : Attempt) (id : Nat) (up : Bool) :
    (l.settle now a id up).1.Paced (l.failedAfter a up failed) := by
  by_cases hcurrent : a.generation = l.generation
  · cases up with
    | true =>
        obtain ⟨reports, heq⟩ := settle_up hcurrent now id
        rw [heq]
        simp only [failedAfter, hcurrent, ne_eq, not_true_eq_false, ↓reduceIte]
        exact ⟨rfl, fun _ => rfl⟩
    | false =>
        obtain ⟨reports, heq⟩ := settle_down hcurrent now id
        rw [heq]
        refine ⟨?_, nofun⟩
        by_cases horigin : a.origin = .reconnecting
        · simpa [failedAfter, fallen, hcurrent, horigin] using Backoff.advance_eq_after h.backoff_eq
        · simpa [failedAfter, fallen, hcurrent, horigin] using h.backoff_eq
  · rw [settle_of_ne hcurrent]
    simp only [failedAfter, ne_eq, hcurrent, not_false_eq_true, ↓reduceIte]
    exact ⟨h.backoff_eq, h.connected⟩

/-- Where the end of an attempt lets a link begin to wait, it was the first attempt, and it failed. -/
theorem Sound.fallen_of_settle {a : Attempt} {now : τ} {id : Nat} {up : Bool}
    (h : l.Sound (a :: inFlight)) (hbefore : l.phase ≠ .reconnecting)
    (hafter : (l.settle now a id up).1.phase = .reconnecting) :
    l.phase = .connecting ∧ (l.settle now a id up).1 = l.fallen now .connecting := by
  have hbound := h.bound a List.mem_cons_self
  have hcurrent : a.generation = l.generation := by
    by_contra hstale
    rw [settle_of_ne hstale] at hafter
    exact hbefore hafter
  have hphase := (hbound.unmoved hcurrent).1
  have horigin : a.origin = .connecting := by
    rcases hbound.origin with horigin | horigin
    · exact horigin
    · exact absurd (hphase.trans horigin) hbefore
  cases up with
  | true =>
      obtain ⟨reports, heq⟩ := settle_up hcurrent now id
      rw [heq] at hafter
      exact nomatch hafter
  | false =>
      obtain ⟨reports, heq⟩ := settle_down hcurrent now id
      rw [heq, horigin]
      exact ⟨hphase.trans horigin, rfl⟩

end

end Link

namespace Rig

variable {σ τ : Type} [Carrier σ τ] [Zero τ] [Sub τ] [Mul τ] [LE τ] [DecidableLE τ] [LT τ]
  [DecidableLT τ]

variable {k : Nat} {r r' : Rig σ τ} {l l' : Link τ} {inFlight inFlight' : List Attempt} {cause : Cause}
  {due : Option Edge}

/-- A hold of the lock settles no attempt, or applies the outcome of the one in flight. -/
theorem Turn.cases (h : Turn k r inFlight cause due r' inFlight') (hr : Moment k r inFlight)
    (hl : r.link? k = some l) (hl' : r'.link? k = some l') :
    l.Unsettled inFlight r.now l' inFlight' ∨
      ∃ a id up, cause = .attempt a.origin ∧ inFlight = a :: inFlight' ∧
        r' = (r.conclude k a id up).2 ∧ l' = (l.settle r.now a id up).1 := by
  have hsound := hr.sound_of_link hl
  have hchanged (operation : Link τ → Link τ × List (LinkAction τ))
      (heq : r' = r.change k operation) : l' = (operation l).1 :=
    Option.some.inj (hl'.symm.trans (heq ▸ link?_change hl operation))
  cases h with
  | setEnabled _ on =>
      obtain rfl := hchanged (·.setEnabled r.now on) rfl
      refine .inl ((hsound.directed_setEnabled r.now on).unsettled ?_)
      rintro hwaiting rfl _
      exact hsound.setEnabled_true (by simp [hwaiting]) r.now
  | configure _ host port =>
      obtain rfl := hchanged (·.configure r.now (.of host port)) rfl
      refine .inl ((hsound.directed_configure r.now host port).unsettled ?_)
      rintro hwaiting _ hsame
      exact hsound.configure_self (by simp [hwaiting]) hsame.symm r.now
  | shutDown _ =>
      obtain rfl := hchanged (·.shutDown r.now) rfl
      exact .inl ((hsound.directed_setEnabled r.now false).unsettled fun _ hon => nomatch hon)
  | look _ =>
      obtain ⟨alive, hpolled, hlink⟩ := link?_look hl
      obtain rfl := Option.some.inj (hl'.symm.trans hlink)
      rw [hpolled]
      exact .inl (hsound.unsettled_poll r.now alive)
  | conclude a _ id up =>
      exact .inr ⟨a, id, up, rfl, rfl, rfl, Option.some.inj (hl'.symm.trans (link?_conclude hl a id up))⟩
  | abort a _ =>
      obtain rfl := hchanged (fun l => (l.abort, [])) rfl
      exact .inl (.kept rfl rfl rfl rfl fun _ ha => .inl (List.mem_cons_of_mem a ha))
  | sent _ m delivered =>
      obtain rfl := hchanged (·.sent m delivered) rfl
      cases delivered <;> exact .inl (.kept rfl rfl rfl rfl fun _ => .inl)
  | countSent _ =>
      obtain rfl := hchanged (fun l => (l.countSent, [])) rfl
      exact .inl (.kept rfl rfl rfl rfl fun _ => .inl)
  | countFailed _ =>
      obtain rfl := hchanged (fun l => (l.countFailed, [])) rfl
      exact .inl (.kept rfl rfl rfl rfl fun _ => .inl)
  | accept _ line =>
      obtain rfl := Option.some.inj (hl'.symm.trans (link?_accept hl line))
      exact .inl (l.unsettled_accept line inFlight r.now)

/-- A run of link `k` with the attempts in flight and how many attempts to reconnect have failed since the
last success.  The link is made with the initial delay. -/
inductive Retries (k : Nat) : Rig σ τ → List Attempt → Nat → Prop
  | made (r : Rig σ τ) (options : LinkOptions τ) (host : String) (port : Int) (sink : Sink)
      (hk : r.stations.size = k) (hfresh : options.backoff.delay = options.backoff.initial) :
      Retries k (r.addLink options (.of host port) sink).2 [] 0
  /-- Something happens that is not up to this link. -/
  | elsewhere {r r' : Rig σ τ} {inFlight : List Attempt} {failed : Nat}
      (h : Retries k r inFlight failed) (hlink : r'.link? k = r.link? k) : Retries k r' inFlight failed
  | turn {r r' : Rig σ τ} {inFlight inFlight' : List Attempt} {cause : Cause} {due : Option Edge}
      {failed : Nat} (h : Retries k r inFlight failed) (hturn : Turn k r inFlight cause due r' inFlight')
      (hcause : ∀ origin, cause ≠ .attempt origin) : Retries k r' inFlight' failed
  | abort {r : Rig σ τ} {a : Attempt} {inFlight : List Attempt} {failed : Nat}
      (h : Retries k r (a :: inFlight) failed) : Retries k (r.abort k) inFlight failed
  | conclude {r : Rig σ τ} {l : Link τ} {a : Attempt} {inFlight : List Attempt} {failed : Nat}
      (h : Retries k r (a :: inFlight) failed) (hl : r.link? k = some l) (id : Nat) (up : Bool) :
      Retries k (r.conclude k a id up).2 inFlight (l.failedAfter a up failed)

namespace Retries

variable {failed : Nat}

theorem moment (h : Retries k r inFlight failed) : Moment k r inFlight := by
  induction h with
  | made r options host port sink hk hfresh => exact .made r options host port sink hk
  | elsewhere _ hlink ih => exact ih.elsewhere hlink
  | turn _ hturn _ ih => exact hturn.moment ih
  | @abort _ a inFlight _ _ ih => exact (Turn.abort a inFlight).moment ih
  | @conclude _ _ a inFlight _ _ _ id up ih => exact (Turn.conclude a inFlight id up).moment ih

theorem via {α : Type} (h : Retries k r inFlight failed) (call : σ → α × σ) :
    Retries k (r.via call).2 inFlight failed :=
  h.elsewhere rfl

/-- The delay follows from the count, by induction on the run. -/
theorem paced (h : Retries k r inFlight failed) (hl : r.link? k = some l) : l.Paced failed := by
  induction h generalizing l with
  | made r options host port sink hk hfresh =>
      subst hk
      rw [link?_addLink] at hl
      cases hl
      exact ⟨Backoff.eq_after_zero hfresh, fun _ => rfl⟩
  | elsewhere _ hlink ih => exact ih (hlink.symm.trans hl)
  | turn h hturn hcause ih =>
      obtain ⟨l₀, hl₀, _⟩ := h.moment.sound
      rcases hturn.cases h.moment hl₀ hl with hunsettled | ⟨a, id, up, hattempt, _⟩
      · exact hunsettled.paced (ih hl₀)
      · exact absurd hattempt (hcause a.origin)
  | abort h ih =>
      obtain ⟨l₀, hl₀, _⟩ := h.moment.sound
      obtain rfl := Option.some.inj ((link?_change hl₀ fun l => (l.abort, [])).symm.trans hl)
      exact ⟨(ih hl₀).backoff_eq, (ih hl₀).connected⟩
  | @conclude _ l₀ a _ _ _ hl₀ id up ih =>
      obtain rfl := Option.some.inj ((link?_conclude hl₀ a id up).symm.trans hl)
      exact (ih hl₀).settle _ a id up

/-- The delay of a new outage.  The link begins to wait because a health check failed or because its first
attempt did.  In the first case the delay is the initial one; in the second it is what the failures since
the last success have made of it, also when the outage that they belong to was cut short by turning the
link off or by its target. -/
theorem delay_on_entry (h : Retries k r inFlight failed) (hturn : Turn k r inFlight cause due r' inFlight')
    (hl : r.link? k = some l) (hl' : r'.link? k = some l') (hbefore : l.phase ≠ .reconnecting)
    (hafter : l'.phase = .reconnecting) :
    (l.phase = .connected ∧ l'.stats.delay = l'.backoff.initial) ∨
      (l.phase = .connecting ∧ l'.stats.delay = (l'.backoff.after failed).delay ∧
        (failed = 0 → l'.stats.delay = l'.backoff.initial)) := by
  have hpaced := h.paced hl
  obtain ⟨l₀, hl₀, hsound⟩ := h.moment.sound
  obtain rfl := Option.some.inj (hl₀.symm.trans hl)
  rcases hturn.cases h.moment hl hl' with hunsettled | ⟨a, id, up, -, rfl, -, rfl⟩
  · have hlost : l₀.phase = .connected := by
      rcases hunsettled.reconnecting hafter with ⟨hwaiting, -⟩ | ⟨hconnected, -⟩
      · exact absurd hwaiting hbefore
      · exact hconnected
    have hbackoff := (hunsettled.paced hpaced).backoff_eq
    rw [hpaced.connected hlost] at hbackoff
    exact .inl ⟨hlost, congrArg Backoff.delay hbackoff⟩
  · obtain ⟨hconnecting, hfallen⟩ := hsound.fallen_of_settle hbefore hafter
    have hdelay : (l₀.settle r.now a id up).1.stats.delay =
        ((l₀.settle r.now a id up).1.backoff.after failed).delay := by
      rw [hfallen]
      exact congrArg Backoff.delay hpaced.backoff_eq
    refine .inr ⟨hconnecting, hdelay, ?_⟩
    rintro rfl
    exact hdelay

/-- An outage in which one attempt to reconnect has failed is cut short by a target that cannot be
connected to; then the first attempt at a new target fails. -/
theorem delay_on_entry_retargeted :
    ∃ (r r' : Rig (Scripted Int) Int) (l l' : Link Int) (a : Attempt), Retries 0 r [a] 1 ∧
      Turn 0 r [a] (.attempt .connecting) none r' [] ∧ r.link? 0 = some l ∧ r'.link? 0 = some l' ∧
      l.phase = .connecting ∧ l'.phase = .reconnecting ∧ l'.stats.delay = 2 := by
  have hmade := Retries.made ({ outside := { clock := 0 } } : Rig (Scripted Int) Int)
    ⟨⟨3, 1, defaultLineLimit⟩, {}, 5, 0, .start 1 2 30⟩ "10.0.0.2" 7000 .log rfl rfl
  have hready := (hmade.turn (.setEnabled [] true) nofun).turn (.look []) nofun
  have hdown := (hready.turn (.look []) nofun).conclude rfl 0 false
  have hdue := hdown.via fun o => ((), { o with clock := 1 })
  have hagain := (hdue.turn (.look []) nofun).conclude rfl 1 false
  have hparked := hagain.turn (.configure [] "10.0.0.2" 0) nofun
  have hmoved := (hparked.turn (.configure [] "10.0.0.3" 7000) nofun).turn (.look []) nofun
  have hclaimed := hmoved.turn (.look []) nofun
  obtain ⟨r, r', l, l', a, hrun, hturn, hl, hl', hconnecting, hwaiting, hafter⟩ :
      ∃ (r r' : Rig (Scripted Int) Int) (l l' : Link Int) (a : Attempt), Retries 0 r [a] 1 ∧
        Turn 0 r [a] (.attempt .connecting) none r' [] ∧ r.link? 0 = some l ∧ r'.link? 0 = some l' ∧
        l.phase = .connecting ∧ l'.phase = .reconnecting ∧ (l'.backoff.after 1).delay = 2 :=
    ⟨_, _, _, _, _, hclaimed, .conclude _ [] 2 false, rfl, rfl, rfl, rfl, rfl⟩
  rcases hrun.delay_on_entry hturn hl hl' (by simp [hconnecting]) hwaiting with
    ⟨hconnected, -⟩ | ⟨-, hdelay, -⟩
  · exact nomatch hconnecting.symm.trans hconnected
  · exact ⟨r, r', l, l', a, hrun, hturn, hl, hl', hconnecting, hwaiting, hdelay.trans hafter⟩

/-- Turning a link off in an outage and on again does not make its delay the initial one. -/
theorem delay_on_entry_turned_off :
    ¬ ∀ (r r' : Rig (Scripted Int) Int) (inFlight inFlight' : List Attempt) (failed : Nat) (cause : Cause)
      (due : Option Edge) (l l' : Link Int), Retries 0 r inFlight failed →
      Turn 0 r inFlight cause due r' inFlight' → r.link? 0 = some l → r'.link? 0 = some l' →
      l.phase = .connecting ∨ l.phase = .connected → l'.phase = .reconnecting →
      l'.stats.delay = l'.backoff.initial := by
  intro hclaim
  have hmade := Retries.made ({ outside := { clock := 1000 } } : Rig (Scripted Int) Int)
    ⟨⟨3, 1, defaultLineLimit⟩, {}, 5, 0, .start 1 2 30⟩ "127.0.0.1" 37393 .log rfl rfl
  have hready := (hmade.turn (.setEnabled [] true) nofun).turn (.look []) nofun
  have hdown := (hready.turn (.look []) nofun).conclude rfl 0 false
  have hdue := hdown.via fun o => ((), { o with clock := 1001 })
  have hagain := (hdue.turn (.look []) nofun).conclude rfl 1 false
  have hlater := hagain.via fun o => ((), { o with clock := 1003 })
  have hlast := (hlater.turn (.look []) nofun).conclude rfl 2 false
  have htoggled := (hlast.turn (.setEnabled [] false) nofun).turn (.setEnabled [] true) nofun
  have hclaimed := (htoggled.turn (.look []) nofun).turn (.look []) nofun
  have hdelay : (4 : Int) = 1 :=
    hclaim _ _ _ [] _ _ _ _ _ hclaimed (.conclude _ [] 3 false) rfl rfl (.inl rfl) rfl
  exact absurd hdelay (by decide)

end Retries

end Rig

end PeripheralLink

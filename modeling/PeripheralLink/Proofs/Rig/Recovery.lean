import PeripheralLink.Proofs.Rig.Outage
/-!
Runs under a clock that does not go back, and what they cannot leave behind.  Whatever enters a time into
a link enters the present one (`Link.Stamped`), so the times that a link has kept are past ones
(`Forward.past`).  A link that waits therefore never waits longer than its delay, and from every moment at
which it should be connected and is not, at most two updates connect it once connecting succeeds
(`Forward.recovers`).
-/

namespace PeripheralLink

namespace Link

variable {τ : Type} {l l' : Link τ} {inFlight : List Attempt} {now : τ}

/-- The times that a hold of the lock at `now` has left in a link: when its phase was entered, and for a
connected link when its health was last checked. -/
structure Stamped (l : Link τ) (now : τ) (l' : Link τ) : Prop where
  entered : l'.enteredAt = l.enteredAt ∨ l'.enteredAt = now
  checked : l'.phase = .connected →
    l.phase = .connected ∧ l'.health.begunAt = l.health.begunAt ∨ l'.health.begunAt = now

theorem Stamped.kept (hphase : l'.phase = l.phase) (hentered : l'.enteredAt = l.enteredAt)
    (hhealth : l'.health = l.health) : l.Stamped now l' where
  entered := .inl hentered
  checked hconnected := .inl ⟨hphase ▸ hconnected, by rw [hhealth]⟩

/-- Arriving in a phase that is not connected. -/
theorem Stamped.arrived (hentered : l'.enteredAt = now) (hphase : l'.phase ≠ .connected) :
    l.Stamped now l' where
  entered := .inr hentered
  checked hconnected := absurd hconnected hphase

theorem Directed.stamped [Sub τ] [Mul τ] [LE τ] [LT τ] [DecidableLT τ] {wish : Bool} {target : Target}
    {calls : List Call} (h : l.Directed now wish target calls l') : l.Stamped now l' := by
  cases h with
  | off _ _ _ => exact .arrived rfl nofun
  | on _ _ _ => exact .arrived rfl nofun
  | stay _ _ => exact .kept rfl rfl rfl

section
variable [Sub τ] [LE τ] [DecidableLE τ]

theorem Sound.stamped_advance (h : l.Sound inFlight) (now : τ) (alive : Bool) :
    l.Stamped now (l.advance now alive).1 := by
  rcases h.advance_cases now alive with
    ⟨heq, _⟩ | ⟨_, heq⟩ | ⟨_, heq⟩ | ⟨hphase, _, _, heq⟩ | ⟨_, _, _, heq⟩
  · rw [heq]
    exact .kept rfl rfl rfl
  · rw [heq]
    exact .arrived rfl nofun
  · rw [heq]
    exact .kept rfl rfl rfl
  · rw [heq]
    exact ⟨.inl rfl, fun _ => .inr rfl⟩
  · rw [heq]
    exact .arrived rfl nofun

variable [Zero τ] [LT τ] [DecidableLT τ]

theorem Sound.stamped_poll (h : l.Sound inFlight) (now : τ) (alive : Bool) :
    l.Stamped now (l.poll now alive).1 := by
  cases hidle : l.attempting with
  | true =>
      rw [poll_of_attempting hidle]
      exact .kept rfl rfl rfl
  | false =>
      obtain ⟨status, reports, hpoll⟩ := poll_of_idle hidle now alive
      obtain ⟨hentered, hchecked⟩ := h.stamped_advance now alive
      rw [hpoll]
      exact ⟨hentered, hchecked⟩

end

theorem stamped_settle [Mul τ] [LT τ] [DecidableLT τ] (l : Link τ) (now : τ) (a : Attempt) (id : Nat)
    (up : Bool) : l.Stamped now (l.settle now a id up).1 := by
  by_cases hcurrent : a.generation = l.generation
  · cases up with
    | true =>
        obtain ⟨reports, heq⟩ := settle_up hcurrent now id
        rw [heq]
        exact ⟨.inr rfl, fun _ => .inr rfl⟩
    | false =>
        obtain ⟨reports, heq⟩ := settle_down hcurrent now id
        rw [heq]
        exact .arrived rfl nofun
  · rw [settle_of_ne hcurrent]
    exact .kept rfl rfl rfl

theorem stamped_accept (l : Link τ) (now : τ) (line : Option (List UInt8)) :
    l.Stamped now (l.accept line).2.1 := by
  unfold accept
  split
  · exact .kept rfl rfl rfl
  · split <;> exact .kept rfl rfl rfl

/-- The times in a link are past ones. -/
structure Past [LE τ] (l : Link τ) (now : τ) : Prop where
  entered : l.enteredAt ≤ now
  checked : l.phase = .connected → l.health.begunAt ≤ now

theorem Past.mono [Preorder τ] {later : τ} (h : l.Past now) (hlater : now ≤ later) : l.Past later where
  entered := h.entered.trans hlater
  checked hconnected := (h.checked hconnected).trans hlater

theorem Stamped.past [Preorder τ] (h : l.Stamped now l') (hpast : l.Past now) : l'.Past now where
  entered := by
    rcases h.entered with hkept | hnow
    · exact hkept.le.trans hpast.entered
    · exact hnow.le
  checked hconnected := by
    rcases h.checked hconnected with ⟨hbefore, hkept⟩ | hnow
    · exact hkept.le.trans (hpast.checked hbefore)
    · exact hnow.le

end Link

namespace Rig

variable {σ τ : Type} [Carrier σ τ]

section
variable [Zero τ] [Sub τ] [Mul τ] [LE τ] [DecidableLE τ] [LT τ] [DecidableLT τ]

variable {k : Nat} {r r' : Rig σ τ} {l l' : Link τ} {inFlight inFlight' : List Attempt} {cause : Cause}
  {due : Option Edge}

/-- A hold of the lock enters no time but the present. -/
theorem Turn.stamped (h : Turn k r inFlight cause due r' inFlight') (hr : Moment k r inFlight)
    (hl : r.link? k = some l) (hl' : r'.link? k = some l') : l.Stamped r.now l' := by
  have hsound := hr.sound_of_link hl
  have hchanged (operation : Link τ → Link τ × List (LinkAction τ))
      (heq : r' = r.change k operation) : l' = (operation l).1 :=
    Option.some.inj (hl'.symm.trans (heq ▸ link?_change hl operation))
  cases h with
  | setEnabled _ on =>
      obtain rfl := hchanged (·.setEnabled r.now on) rfl
      exact (hsound.directed_setEnabled r.now on).stamped
  | configure _ host port =>
      obtain rfl := hchanged (·.configure r.now (.of host port)) rfl
      exact (hsound.directed_configure r.now host port).stamped
  | shutDown _ =>
      obtain rfl := hchanged (·.shutDown r.now) rfl
      exact (hsound.directed_setEnabled r.now false).stamped
  | look _ =>
      obtain ⟨alive, -, hlink⟩ := link?_look hl
      obtain rfl := Option.some.inj (hl'.symm.trans hlink)
      exact hsound.stamped_poll r.now alive
  | conclude a _ id up =>
      obtain rfl := Option.some.inj (hl'.symm.trans (link?_conclude hl a id up))
      exact l.stamped_settle r.now a id up
  | abort a _ =>
      obtain rfl := hchanged (fun l => (l.abort, [])) rfl
      exact .kept rfl rfl rfl
  | sent _ m delivered =>
      obtain rfl := hchanged (·.sent m delivered) rfl
      cases delivered <;> exact .kept rfl rfl rfl
  | countSent _ =>
      obtain rfl := hchanged (fun l => (l.countSent, [])) rfl
      exact .kept rfl rfl rfl
  | countFailed _ =>
      obtain rfl := hchanged (fun l => (l.countFailed, [])) rfl
      exact .kept rfl rfl rfl
  | accept _ line =>
      obtain rfl := Option.some.inj (hl'.symm.trans (link?_accept hl line))
      exact l.stamped_accept r.now line

/-- A run of link `k` under a clock that does not go back, with the attempts in flight. -/
inductive Forward (k : Nat) : Rig σ τ → List Attempt → Prop
  | made (r : Rig σ τ) (options : LinkOptions τ) (host : String) (port : Int) (sink : Sink)
      (hk : r.stations.size = k) : Forward k (r.addLink options (.of host port) sink).2 []
  /-- Something happens that is not up to this link: time passes, a transport is built, connects, fails to
  or breaks down, a sink is told or raises, another link is called. -/
  | elsewhere {r r' : Rig σ τ} {inFlight : List Attempt} (h : Forward k r inFlight)
      (hlink : r'.link? k = r.link? k) (hclock : r.now ≤ r'.now) : Forward k r' inFlight
  | turn {r r' : Rig σ τ} {inFlight inFlight' : List Attempt} {cause : Cause} {due : Option Edge}
      (h : Forward k r inFlight) (hturn : Turn k r inFlight cause due r' inFlight')
      (hclock : r.now ≤ r'.now) : Forward k r' inFlight'

theorem Forward.moment (h : Forward k r inFlight) : Moment k r inFlight := by
  induction h with
  | made r options host port sink hk => exact .made r options host port sink hk
  | elsewhere _ hlink _ ih => exact ih.elsewhere hlink
  | turn _ hturn _ ih => exact hturn.moment ih

end

/-- The times in a link are past ones, by induction on the run. -/
theorem Forward.past [Zero τ] [Sub τ] [Mul τ] [LinearOrder τ] {k : Nat} {r : Rig σ τ} {l : Link τ}
    {inFlight : List Attempt} (h : Forward k r inFlight) (hl : r.link? k = some l) : l.Past r.now := by
  induction h generalizing l with
  | made r options host port sink hk =>
      subst hk
      rw [link?_addLink] at hl
      cases hl
      exact ⟨le_refl r.now, nofun⟩
  | elsewhere _ hlink hclock ih => exact (ih (hlink.symm.trans hl)).mono hclock
  | turn h hturn hclock ih =>
      obtain ⟨l₀, hl₀, _⟩ := h.moment.sound
      exact ((hturn.stamped h.moment hl₀ hl).past (ih hl₀)).mono hclock

end Rig

/-- The call does not fail to build or to connect a transport. -/
def Call.Succeeds : Call → Prop
  | build _ result => ∃ id, result = .ok id
  | connect _ result => result = .ok true
  | _ => True

/-- An attempt whose calls succeed connects the link to its target. -/
theorem Link.Transition.rises {τ : Type} [Sub τ] [Mul τ] [LE τ] [LT τ] [DecidableLT τ] {l l' : Link τ}
    {now later : τ} {calls : List Call} {outcome : Except Fault (Option Edge)}
    (h : l.Transition now later calls outcome l')
    (hdue : l.phase = .connecting ∨ l.phase = .reconnecting ∧ l.backoff.delay ≤ now - l.enteredAt)
    (hsucceeds : ∀ call ∈ calls, call.Succeeds) :
    (∃ e, outcome = .ok (some e)) ∧ l'.phase = .connected ∧ l'.target = l.target ∧
      ∃ id, l'.transport = some id ∧ calls = [.build l.target (.ok id), .connect id (.ok true)] := by
  have hother {p : Phase} (hphase : l.phase = p) (hconnecting : p ≠ .connecting)
      (hreconnecting : p ≠ .reconnecting) : False := by
    rcases hdue with hdue | ⟨hdue, -⟩
    · exact hconnecting (hphase.symm.trans hdue)
    · exact hreconnecting (hphase.symm.trans hdue)
  have hfailed (id : Nat) (hcall : Call.connect id (.ok false) ∈ calls) : False :=
    nomatch (hsucceeds _ hcall : (Except.ok false : Except Fault Bool) = .ok true)
  cases h with
  | connected _ id => exact ⟨⟨_, rfl⟩, rfl, rfl, id, rfl, rfl⟩
  | reconnected _ _ id => exact ⟨⟨_, rfl⟩, rfl, rfl, id, rfl, rfl⟩
  | disabled hphase => exact (hother hphase nofun nofun).elim
  | disconnected hphase => exact (hother hphase nofun nofun).elim
  | unreachable _ id => exact (hfailed id (by simp)).elim
  | unchecked hphase _ => exact (hother hphase nofun nofun).elim
  | alive hphase _ _ _ => exact (hother hphase nofun nofun).elim
  | lost hphase _ _ _ => exact (hother hphase nofun nofun).elim
  | waiting hphase hwait =>
      rcases hdue with hconnecting | ⟨-, hdelay⟩
      · exact nomatch hphase.symm.trans hconnecting
      · exact absurd hdelay hwait
  | retried _ _ id => exact (hfailed id (by simp)).elim
  | raised _ fault calls hcalls =>
      cases hcalls with
      | unbuilt _ => exact (nomatch hsucceeds _ List.mem_cons_self)
      | broken id _ =>
          exact nomatch (hsucceeds (.connect id (.error fault)) (by simp) :
            (Except.error fault : Except Fault Bool) = .ok true)

/-- An update of a disconnected link makes no call. -/
theorem Link.Transition.starts {τ : Type} [Sub τ] [Mul τ] [LE τ] [LT τ] [DecidableLT τ] {l l' : Link τ}
    {now later : τ} {calls : List Call} {outcome : Except Fault (Option Edge)}
    (h : l.Transition now later calls outcome l') (hphase : l.phase = .disconnected) :
    outcome = .ok none ∧ calls = [] ∧ l'.phase = .connecting ∧ l'.target = l.target := by
  cases h with
  | disconnected _ => exact ⟨rfl, rfl, rfl, rfl⟩
  | raised hdue _ _ _ => rcases hdue with hother | ⟨hother, -⟩ <;> exact nomatch hphase.symm.trans hother
  | _ => simp_all

namespace Rig

/-- Telling an edge with no call out of the sink makes no call and leaves the stations alone. -/
theorem told_frame {σ τ : Type} (r : Rig (Traced σ) τ) (sink : Sink) (outcome : Except Fault (Option Edge)) :
    (r.told sink outcome).2.stations = r.stations ∧ (r.told sink outcome).2.calls = r.calls := by
  rcases outcome with fault | _ | e
  · exact ⟨rfl, rfl⟩
  · exact ⟨rfl, rfl⟩
  · exact tell_keeps (P := fun r' => r'.stations = r.stations ∧ r'.calls = r.calls) (fun _ _ h => h)
      (fun _ h => h) sink e ⟨rfl, rfl⟩

section Updates

variable {σ τ : Type} [Carrier σ τ] [Zero τ] [Sub τ] [Mul τ] [LE τ] [DecidableLE τ] [LT τ] [DecidableLT τ]

/-- Updates of link `k` with what they answer, and no other call between them; time passes before each. -/
inductive Updates (k : Nat) : List (Except Fault Unit) → Rig (Traced σ) τ → Rig (Traced σ) τ → Prop
  | none (r : Rig (Traced σ) τ) : Updates k [] r r
  | next {results : List (Except Fault Unit)} {r r₀ r' : Rig (Traced σ) τ}
      (hstation : r₀.stations[k]? = r.stations[k]?) (hcalls : r₀.calls = r.calls) (hclock : r.now ≤ r₀.now)
      (hrest : Updates k results (r₀.update k id id).2 r') :
      Updates k ((r₀.update k id id).1 :: results) r r'

/-- The link is connected, over the transport that the calls since then have built for its target. -/
def Brought (k : Nat) (target : Target) (calls : List Call) (r : Rig (Traced σ) τ) : Prop :=
  ∃ l id, r.link? k = some l ∧ l.phase = .connected ∧ l.transport = some id ∧ l.target = target ∧
    calls = [.build target (.ok id), .connect id (.ok true)]

variable {k : Nat} {r : Rig (Traced σ) τ} {s : Station τ}

/-- An update between attempts is a row of the table. -/
theorem Moment.update_row (h : Moment k r []) (hs : r.stations[k]? = some s) :
    ∃ calls outcome l' status r' later, r.Does k s.link calls { l' with status } r' ∧
      s.link.Transition r.now later calls outcome l' ∧ r.update k id id = r'.told s.sink outcome := by
  have hl : r.link? k = some s.link := by simp [link?, hs]
  have hsound := h.sound_of_link hl
  obtain ⟨calls, l₁, status, r₁, hdoes, ⟨edge, hlook, hrow⟩ | ⟨hlook, rfl, rfl, hdue⟩⟩ :=
    h.look_table hl r.now
  · refine ⟨_, _, _, _, _, _, hdoes, hrow, ?_⟩
    simp only [Rig.update, hs, hlook]
    cases edge <;> rfl
  · obtain ⟨calls, outcome, l', r', hdone, hrow, hattempt⟩ := attempt_table (s := s) hsound hdue hdoes
    refine ⟨_, _, _, _, _, _, hdone, hrow, ?_⟩
    simp only [Rig.update, hs, hlook]
    exact hattempt

/-- An update that makes an attempt, with every call of it succeeding, connects the link. -/
theorem Moment.update_brings (h : Moment k r []) (hs : r.stations[k]? = some s)
    (hdue : s.link.phase = .connecting ∨
      s.link.phase = .reconnecting ∧ s.link.backoff.delay ≤ r.now - s.link.enteredAt)
    {calls : List Call} (hcalls : (r.update k id id).2.calls = r.calls ++ calls)
    (hsucceeds : ∀ call ∈ calls, call.Succeeds) :
    (r.update k id id).1 = .ok () ∧ Brought k s.link.target calls (r.update k id id).2 := by
  obtain ⟨made, outcome, l', status, r', later, hdoes, hrow, hupdate⟩ := h.update_row hs
  obtain ⟨hstations, htold⟩ := r'.told_frame s.sink outcome
  rw [hupdate, htold, hdoes.calls_eq] at hcalls
  obtain rfl := List.append_cancel_left hcalls
  obtain ⟨⟨e, rfl⟩, hphase, htarget, id, howns, hmade⟩ := hrow.rises hdue hsucceeds
  rw [hupdate]
  exact ⟨rfl, _, id, (link?_of_stations hstations k).trans hdoes.after, hphase, howns, htarget, hmade⟩

/-- An update of a disconnected link makes no call, and the next one makes an attempt. -/
theorem Moment.update_starts (h : Moment k r []) (hs : r.stations[k]? = some s)
    (hphase : s.link.phase = .disconnected) :
    (r.update k id id).1 = .ok () ∧ (r.update k id id).2.calls = r.calls ∧
      ∃ s', (r.update k id id).2.stations[k]? = some s' ∧ s'.link.phase = .connecting ∧
        s'.link.target = s.link.target := by
  obtain ⟨made, outcome, l', status, r', later, hdoes, hrow, hupdate⟩ := h.update_row hs
  obtain ⟨rfl, rfl, hconnecting, htarget⟩ := hrow.starts hphase
  have hafter := hdoes.after
  rw [link?, Option.map_eq_some_iff] at hafter
  obtain ⟨s', hs', hlink⟩ := hafter
  rw [hupdate]
  refine ⟨rfl, hdoes.calls_eq.trans (List.append_nil _), s', hs', ?_, ?_⟩ <;> rw [hlink]
  · exact hconnecting
  · exact htarget

end Updates

/-- No wedge.  Take any run under a clock that does not go back that has left a link wanted, with a valid
target and no attempt in flight, but not connected.  Once its delay has passed, one update connects it, or two
if it is disconnected, with nothing but time passing between them, as long as the calls by which a transport
is built and connected succeed: no update raises, and the link owns the one transport that they have built,
for the target that it has. -/
theorem Forward.recovers {σ τ : Type} [Carrier σ τ] [Ring τ] [LinearOrder τ] [IsStrictOrderedRing τ]
    {k : Nat} {r r₀ : Rig (Traced σ) τ} {s : Station τ} (h : Forward k r [])
    (hs : r.stations[k]? = some s) (hon : s.link.enabled = true) (hvalid : s.link.target.isValid = true)
    (hdown : s.link.phase ≠ .connected) (hstation : r₀.stations[k]? = some s)
    (hlater : r.now + s.link.stats.delay ≤ r₀.now) :
    ∀ results r' calls, Updates k results r₀ r' →
      results.length = (if s.link.phase = .disconnected then 2 else 1) →
      r'.calls = r₀.calls ++ calls → (∀ call ∈ calls, call.Succeeds) →
        (∀ result ∈ results, result = .ok ()) ∧ Brought k s.link.target calls r' := by
  have hl : r.link? k = some s.link := by simp [link?, hs]
  have hsound := h.moment.sound_of_link hl
  have hmoment {r₁ : Rig (Traced σ) τ} (hstation₁ : r₁.stations[k]? = r₀.stations[k]?) : Moment k r₁ [] :=
    h.moment.elsewhere (by rw [link?, link?, hstation₁, hstation, hs])
  rintro results r' calls hupdates hlength hcalls hsucceeds
  by_cases hphase : s.link.phase = .disconnected
  · rw [if_pos hphase] at hlength
    cases hupdates with
    | none => cases hlength
    | @next results _ r₁ _ hstation₁ hcalls₁ hclock₁ hrest =>
    cases hrest with
    | none => cases hlength
    | @next results _ r₂ _ hstation₂ hcalls₂ hclock₂ hrest =>
    cases hrest with
    | next _ _ _ _ => simp at hlength
    | none =>
    have hfirst := hmoment hstation₁
    obtain ⟨hok, hquiet, s', hs', hconnecting, htarget⟩ :=
      hfirst.update_starts (hstation₁.trans hstation) hphase
    have hupdated : Moment k (r₁.update k id id).2 [] := hfirst.update (fun _ _ h => h) (fun _ h => h)
    have hsecond : Moment k r₂ [] := hupdated.elsewhere (by rw [link?, link?, hstation₂])
    rw [← hcalls₁, ← hquiet, ← hcalls₂] at hcalls
    obtain ⟨hok', hbrought⟩ :=
      hsecond.update_brings (hstation₂.trans hs') (.inl hconnecting) hcalls hsucceeds
    rw [htarget] at hbrought
    exact ⟨by simp [hok, hok'], hbrought⟩
  · have hdue (now : τ) (hnow : r₀.now ≤ now) : s.link.phase = .connecting ∨
        s.link.phase = .reconnecting ∧ s.link.backoff.delay ≤ now - s.link.enteredAt := by
      cases hstands : s.link.phase with
      | disabled => exact absurd ⟨hon, hvalid⟩ (hsound.disabled_iff.mp hstands)
      | connected => exact absurd hstands hdown
      | disconnected => exact absurd hstands hphase
      | connecting => exact .inl rfl
      | reconnecting =>
          refine .inr ⟨rfl, le_sub_iff_add_le'.mpr ?_⟩
          exact (add_le_add_left (h.past hl).entered _).trans (hlater.trans hnow)
    rw [if_neg hphase] at hlength
    cases hupdates with
    | none => cases hlength
    | @next results _ r₁ _ hstation₁ hcalls₁ hclock₁ hrest =>
    cases hrest with
    | next _ _ _ _ => simp at hlength
    | none =>
    rw [← hcalls₁] at hcalls
    obtain ⟨hok, hbrought⟩ := (hmoment hstation₁).update_brings (hstation₁.trans hstation)
      (hdue r₁.now hclock₁) hcalls hsucceeds
    exact ⟨by simp [hok], hbrought⟩

/-- An attempt that is voided because the target changes while it is in flight, and another that fails. -/
theorem recovers_after_failures :
    ∃ (r r₀ r' : Rig (Traced (Scripted Int)) Int) (s : Station Int) (calls : List Call),
      Forward 0 r [] ∧ r.stations[0]? = some s ∧ s.link.phase = .reconnecting ∧ s.link.generation = 1 ∧
      r₀.stations[0]? = some s ∧ Updates 0 [.ok ()] r₀ r' ∧ Brought 0 (.of "10.0.0.3" 7000) calls r' := by
  have hmade := Forward.made ({ outside := ⟨{ clock := 0 }, []⟩ } : Rig (Traced (Scripted Int)) Int)
    ⟨⟨3, 1, defaultLineLimit⟩, {}, 5, 0, .start 1 2 30⟩ "10.0.0.2" 7000 .log rfl
  have hready := (hmade.turn (.setEnabled [] true) (le_refl _)).turn (.look []) (le_refl _)
  have hmoved := (hready.turn (.look []) (le_refl _)).turn (.configure _ "10.0.0.3" 7000) (le_refl _)
  have hvoided := hmoved.turn (.conclude _ [] 0 true) (le_refl _)
  have hdown := (hvoided.turn (.look []) (le_refl _)).turn (.conclude _ [] 1 false) (le_refl _)
  let later (r : Rig (Traced (Scripted Int)) Int) : Rig (Traced (Scripted Int)) Int :=
    (r.via fun o => ((), { o with outside := { o.outside with clock := 1 } })).2
  obtain ⟨r, s, hrun, hs, hphase, hgeneration, hon, htarget, hdue, hok, hcalls⟩ :
      ∃ (r : Rig (Traced (Scripted Int)) Int) (s : Station Int), Forward 0 r [] ∧
        r.stations[0]? = some s ∧ s.link.phase = .reconnecting ∧ s.link.generation = 1 ∧
        s.link.enabled = true ∧ s.link.target = .of "10.0.0.3" 7000 ∧
        r.now + s.link.stats.delay ≤ (later r).now ∧ ((later r).update 0 id id).1 = .ok () ∧
        ((later r).update 0 id id).2.calls =
          (later r).calls ++ [.build (.of "10.0.0.3" 7000) (.ok 0), .connect 0 (.ok true)] :=
    ⟨_, _, hdown, rfl, rfl, rfl, rfl, rfl, by decide, rfl, rfl⟩
  have hupdates := Updates.next (k := 0) (r := later r) rfl rfl (le_refl _) (.none _)
  have hstation : (later r).stations[0]? = some s := hs
  obtain ⟨-, hbrought⟩ := hrun.recovers hs hon (by rw [htarget]; decide) (by simp [hphase]) hstation hdue
    _ _ _ hupdates (by rw [hphase]; rfl) hcalls (by simp [Call.Succeeds])
  rw [hok] at hupdates
  rw [htarget] at hbrought
  exact ⟨r, later r, _, s, _, hrun, hs, hphase, hgeneration, hs, hupdates, hbrought⟩

end Rig

end PeripheralLink

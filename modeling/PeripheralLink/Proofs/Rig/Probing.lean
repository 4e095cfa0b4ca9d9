import Mathlib.Data.Rat.Floor
import PeripheralLink.Proofs.Rig.Loss
/-!
When the peer of a link is probed.  The interval between probes runs while the link is connected: it begins
with the connected phase and again with every probe (`Metered`).  `Watch` follows a run of a link through any
holds of its lock and keeps what concerns its health in order, every stay in the connected phase from
its beginning to its end.

`Watch.probes_spaced` is the law for all stays of a run, whenever the link is polled: no probe comes before the
interval has passed since the phase was entered and since the probe before, the first update after that
makes one, and no probe is made outside a stay.
-/

namespace PeripheralLink

def Call.isProbe : Call → Bool
  | probe _ _ => true
  | _ => false

/-- The actions of a link probe nothing. -/
@[simp] theorem filter_isProbe_calls {τ : Type} (actions : List (LinkAction τ)) :
    (actions.flatMap LinkAction.calls).filter Call.isProbe = [] := by
  rw [List.filter_eq_nil_iff]
  intro c hc
  obtain ⟨action, -, hmem⟩ := List.mem_flatMap.mp hc
  cases action with
  | release id =>
      obtain rfl := List.mem_singleton.mp hmem
      exact nofun
  | report n => cases hmem

/-- What concerns the health of a link. -/
inductive Tick (τ : Type)
  | entered (time : τ)
  | probed (time : τ)
  | left

section Ticks

variable {τ : Type}

/-- The ticks of a hold of the lock, from the phases before and after it and the calls made in it. -/
def ticks (time : τ) (old next : Phase) (calls : List Call) : List (Tick τ) :=
  (calls.filter Call.isProbe).map (fun _ => .probed time) ++
    if old = .connected then if next = .connected then [] else [.left]
    else if next = .connected then [.entered time] else []

/-- The times of the probes. -/
def probings (log : List (Tick τ)) : List τ :=
  log.filterMap fun | .probed time => some time | _ => none

theorem probings_append (log log' : List (Tick τ)) : probings (log ++ log') = probings log ++ probings log' :=
  List.filterMap_append

/-- Every probe of a hold is a tick. -/
theorem length_probings_ticks (time : τ) (old next : Phase) (calls : List Call) :
    (probings (ticks time old next calls)).length = (calls.filter Call.isProbe).length := by
  rw [ticks, probings_append]
  split <;> split <;> simp [probings]

theorem ticks_append_actions (time : τ) (old next : Phase) (calls : List Call)
    (actions : List (LinkAction τ)) :
    ticks time old next (calls ++ actions.flatMap LinkAction.calls) = ticks time old next calls := by
  simp [ticks]

end Ticks

/-- Ticks at which an interval is kept.  It begins when the connected phase is entered and when the peer is
probed; before and after the ticks stand the times of its last beginning, and there is none outside the
connected phase. -/
inductive Metered {τ : Type} [Add τ] [LE τ] (interval : τ) : Option τ → List (Tick τ) → Option τ → Prop
  | none (since : Option τ) : Metered interval since [] since
  | entered {time : τ} {log : List (Tick τ)} {last : Option τ} (h : Metered interval (some time) log last) :
      Metered interval .none (.entered time :: log) last
  | probed {since time : τ} {log : List (Tick τ)} {last : Option τ} (hdue : since + interval ≤ time)
      (h : Metered interval (some time) log last) : Metered interval (some since) (.probed time :: log) last
  | left {since : τ} {log : List (Tick τ)} {last : Option τ} (h : Metered interval .none log last) :
      Metered interval (some since) (.left :: log) last

namespace Metered

section

variable {τ : Type} [Add τ] [LE τ] {interval : τ} {since middle last : Option τ} {log log' : List (Tick τ)}

theorem append (h : Metered interval since log middle) (h' : Metered interval middle log' last) :
    Metered interval since (log ++ log') last := by
  induction h with
  | none => exact h'
  | entered _ ih => exact .entered (ih h')
  | probed hdue _ ih => exact .probed hdue (ih h')
  | left _ ih => exact .left (ih h')

theorem split (h : Metered interval since (log ++ log') last) :
    ∃ middle, Metered interval since log middle ∧ Metered interval middle log' last := by
  induction log generalizing since with
  | nil => exact ⟨since, .none since, h⟩
  | cons tick log ih =>
      cases h with
      | entered h =>
          obtain ⟨middle, hlog, hlog'⟩ := ih h
          exact ⟨middle, .entered hlog, hlog'⟩
      | probed hdue h =>
          obtain ⟨middle, hlog, hlog'⟩ := ih h
          exact ⟨middle, .probed hdue hlog, hlog'⟩
      | left h =>
          obtain ⟨middle, hlog, hlog'⟩ := ih h
          exact ⟨middle, .left hlog, hlog'⟩

/-- Where the interval runs, the ticks end with a stay in the connected phase; the stay began with them unless
the interval ran before. -/
theorem stay {time : τ} (h : Metered interval since log (some time)) :
    (∃ (earlier : List (Tick τ)) (entry : τ) (probes : List τ),
      log = earlier ++ .entered entry :: probes.map .probed ∧ time = probes.getLastD entry) ∨
    ∃ (start : τ) (probes : List τ),
      since = some start ∧ log = probes.map .probed ∧ time = probes.getLastD start := by
  generalize hlast : some time = last at h
  induction h with
  | none since => exact .inr ⟨time, [], hlast.symm, rfl, rfl⟩
  | @entered entry log _ _ ih =>
      rcases ih hlast with ⟨earlier, entry', probes, hlog, htime⟩ | ⟨start, probes, hstart, hlog, htime⟩
      · exact .inl ⟨.entered entry :: earlier, entry', probes, by rw [hlog]; rfl, htime⟩
      · obtain rfl := Option.some.inj hstart
        exact .inl ⟨[], entry, probes, by rw [hlog]; rfl, htime⟩
  | @probed since probe log _ _ _ ih =>
      rcases ih hlast with ⟨earlier, entry, probes, hlog, htime⟩ | ⟨start, probes, hstart, hlog, htime⟩
      · exact .inl ⟨.probed probe :: earlier, entry, probes, by rw [hlog]; rfl, htime⟩
      · obtain rfl := Option.some.inj hstart
        exact .inr ⟨since, probe :: probes, rfl, by rw [hlog]; rfl, by rw [htime, List.getLastD_cons]⟩
  | left _ ih =>
      rcases ih hlast with ⟨earlier, entry, probes, hlog, htime⟩ | ⟨_, _, hstart, _⟩
      · exact .inl ⟨.left :: earlier, entry, probes, by rw [hlog]; rfl, htime⟩
      · cases hstart

end

variable {τ : Type} [Ring τ] [LinearOrder τ] [IsStrictOrderedRing τ] {interval : τ}

/-- Any two beginnings of the interval in one stay are as far apart as it is long. -/
theorem spaced (hinterval : 0 ≤ interval) {since : τ} {probes : List τ} {after : List (Tick τ)}
    {last : Option τ} (h : Metered interval (some since) (probes.map .probed ++ after) last) :
    (since :: probes).Pairwise fun time later => time + interval ≤ later := by
  induction probes generalizing since with
  | nil => exact List.pairwise_singleton _ _
  | cons probe probes ih =>
      cases h with
      | probed hdue h =>
          have hrest := ih h
          refine List.pairwise_cons.mpr ⟨?_, hrest⟩
          intro later hlater
          rcases List.mem_cons.mp hlater with rfl | hmem
          · exact hdue
          · exact (hdue.trans (le_add_of_nonneg_right hinterval)).trans (List.rel_of_pairwise_cons hrest hmem)

end Metered

section Windows

variable {τ : Type} [Ring τ] [LinearOrder τ] [IsStrictOrderedRing τ] {interval start stop : τ}

/-- Spaced times between two bounds. -/
theorem add_mul_le_of_spaced {time : τ} {times : List τ}
    (hspaced : (time :: times).Pairwise fun time later => time + interval ≤ later)
    (hfirst : start ≤ time) (hlast : ∀ t ∈ time :: times, t ≤ stop) :
    start + times.length * interval ≤ stop := by
  induction times generalizing start time with
  | nil => simpa using hfirst.trans (hlast time List.mem_cons_self)
  | cons next times ih =>
      have hnext : start + interval ≤ next :=
        (add_le_add_left hfirst interval).trans (List.rel_of_pairwise_cons hspaced List.mem_cons_self)
      have hrest := ih hspaced.of_cons hnext fun t ht => hlast t (List.mem_cons_of_mem _ ht)
      calc start + ((times.length + 1 : ℕ) : τ) * interval
          = start + interval + times.length * interval := by
            rw [Nat.cast_succ, add_mul, one_mul, add_comm (_ * interval), ← add_assoc]
        _ ≤ stop := hrest

/-- A window shorter than `n + 1` intervals has room for `n + 1` spaced times. -/
theorem length_filter_le_of_spaced (hinterval : 0 < interval) {times : List τ}
    (hspaced : times.Pairwise fun time later => time + interval ≤ later) {length : τ} {n : ℕ}
    (hlength : length < (n + 1) * interval) (start : τ) :
    (times.filter fun t => start ≤ t ∧ t ≤ start + length).length ≤ n + 1 := by
  have hinside := hspaced.filter fun t => start ≤ t ∧ t ≤ start + length
  have hbounds : ∀ t ∈ times.filter fun t => start ≤ t ∧ t ≤ start + length,
      start ≤ t ∧ t ≤ start + length := by simp
  cases hwindow : times.filter fun t => start ≤ t ∧ t ≤ start + length with
  | nil => simp
  | cons time rest =>
      rw [hwindow] at hinside hbounds
      have hroom := add_mul_le_of_spaced hinside (hbounds time List.mem_cons_self).1
        fun t ht => (hbounds t ht).2
      have hfewer : (rest.length : τ) * interval < (n + 1 : ℕ) * interval := by
        rw [Nat.cast_succ]
        exact (le_of_add_le_add_left hroom).trans_lt hlength
      exact Nat.cast_lt.mp (lt_of_mul_lt_mul_right hfewer hinterval.le)

end Windows

namespace Link

variable {τ : Type} {l l' : Link τ} {inFlight : List Attempt} {now : τ}

/-- When the interval between probes has last begun, if the link is connected. -/
def checkedAt? (l : Link τ) : Option τ := if l.phase = .connected then some l.health.begunAt else none

/-- A hold that probes nothing leaves the interval alone, but for beginning and ending it with the connected
phase. -/
theorem Stamped.metered [Add τ] [LE τ] {calls : List Call} (h : l.Stamped now l')
    (hkept : l.phase = .connected → l'.health = l.health)
    (hquiet : calls.filter Call.isProbe = []) (interval : τ) :
    Metered interval l.checkedAt? (ticks now l.phase l'.phase calls) l'.checkedAt? := by
  rw [ticks, hquiet, List.map_nil, List.nil_append, checkedAt?, checkedAt?]
  by_cases hold : l.phase = .connected <;> by_cases hnext : l'.phase = .connected
  · simp only [hold, hnext, ↓reduceIte, hkept]
    exact .none _
  · simp only [hold, hnext, ↓reduceIte]
    exact .left (.none _)
  · have hnow : l'.health.begunAt = now := (h.checked hnext).resolve_left fun hbefore => hold hbefore.1
    simp only [hold, hnext, ↓reduceIte, hnow]
    exact .entered (.none _)
  · simp only [hold, hnext, ↓reduceIte]
    exact .none _

theorem Directed.health_eq [Sub τ] [Mul τ] [LE τ] [LT τ] [DecidableLT τ] {wish : Bool} {target : Target}
    {calls : List Call} (h : l.Directed now wish target calls l') : l'.health = l.health := by
  cases h <;> rfl

theorem health_accept (l : Link τ) (line : Option (List UInt8)) : (l.accept line).2.1.health = l.health := by
  obtain ⟨counters, heq⟩ := (l.counts_accept line).counters
  rw [heq]

section
variable [Mul τ] [LT τ] [DecidableLT τ]

theorem interval_settle (l : Link τ) (now : τ) (a : Attempt) (id : Nat) (up : Bool) :
    (l.settle now a id up).1.health.interval = l.health.interval := by
  by_cases hcurrent : a.generation = l.generation
  · cases up with
    | true =>
        obtain ⟨reports, heq⟩ := settle_up hcurrent now id
        rw [heq]
        rfl
    | false =>
        obtain ⟨reports, heq⟩ := settle_down hcurrent now id
        rw [heq]
        rfl
  · rw [settle_of_ne hcurrent]

end

section
variable [Zero τ] [Sub τ] [LE τ] [DecidableLE τ] [LT τ] [DecidableLT τ]

/-- A poll begins the interval exactly when it comes with a probe. -/
theorem Sound.health_poll (h : l.Sound inFlight) (now : τ) (alive : Bool) :
    (l.poll now alive).1.health = if (l.probe? now).isSome then l.health.mark now else l.health := by
  cases hidle : l.attempting with
  | true => simp [poll_of_attempting hidle, probe?, hidle]
  | false =>
      obtain ⟨status, reports, hpoll⟩ := poll_of_idle hidle now alive
      rw [hpoll, h.probe?_eq hidle]
      rcases h.advance_cases now alive with
        ⟨heq, hstay⟩ | ⟨hphase, heq⟩ | ⟨hdue, heq⟩ | ⟨hphase, hdue, -, heq⟩ | ⟨hphase, hdue, -, heq⟩
      · rw [heq]
        rcases hstay with hphase | ⟨hphase, hwait⟩ | ⟨hphase, -⟩ <;> simp [*]
      · simp [heq, enter, hphase]
      · have hphase : l.phase ≠ .connected := by
          rcases hdue with hphase | ⟨hphase, -⟩ <;> simp [hphase]
        simp [heq, Link.claim, giveUp, hphase]
      · simp [heq, hphase, hdue, h.owns_iff.mpr hphase]
      · simp [heq, hphase, hdue, h.owns_iff.mpr hphase, leave, giveUp, enter]

end

/-- A poll with its probe, if it comes with one, keeps the interval. -/
theorem Sound.metered_poll [Ring τ] [LinearOrder τ] [IsStrictOrderedRing τ] (h : l.Sound inFlight) (now : τ)
    (alive : Bool) :
    Metered l.health.interval l.checkedAt?
      (ticks now l.phase (l.poll now alive).1.phase ((l.probe? now).toList.map (.probe · alive)))
      (l.poll now alive).1.checkedAt? := by
  have hhealth := h.health_poll now alive
  cases hprobe : l.probe? now with
  | none =>
      rw [hprobe] at hhealth
      exact (h.stamped_poll now alive).metered (fun _ => hhealth) rfl _
  | some id =>
      obtain ⟨⟨⟨⟨-, hconnected⟩, -⟩, hdue⟩, -⟩ :
          (((l.attempting = false ∧ l.phase = .connected) ∧ l.enabled = true) ∧
            l.health.isDue now = true) ∧ l.transport = some id := by simpa [probe?] using hprobe
      have hpassed := (Rig.isDue_iff l.health now).mp hdue
      simp only [hprobe, Option.isSome_some, ↓reduceIte] at hhealth
      simp only [ticks, checkedAt?, hconnected, hhealth, ↓reduceIte, IntervalClock.mark]
      by_cases hnext : (l.poll now alive).1.phase = .connected
      · simp only [hnext, ↓reduceIte]
        exact .probed hpassed (.none _)
      · simp only [hnext, ↓reduceIte]
        exact .probed hpassed (.left (.none _))

end Link

namespace Rig

variable {σ τ : Type} [Carrier σ τ]

section
variable [Zero τ] [Sub τ] [Mul τ] [LE τ] [DecidableLE τ] [LT τ] [DecidableLT τ]

/-- A run of link `k` with the attempts in flight and its ticks.  The trace of calls begins with the link. -/
inductive Watch (k : Nat) : Rig (Traced σ) τ → List Attempt → List (Tick τ) → Prop
  | made (r : Rig (Traced σ) τ) (options : LinkOptions τ) (host : String) (port : Int) (sink : Sink)
      (hk : r.stations.size = k) (hcalls : r.calls = []) :
      Watch k (r.addLink options (.of host port) sink).2 [] []
  /-- Something happens that is not up to this link, and no peer is probed for it: time passes, a transport is
  built, connects, is used or breaks, a sink is told. -/
  | elsewhere {r r' : Rig (Traced σ) τ} {inFlight : List Attempt} {log : List (Tick τ)}
      (h : Watch k r inFlight log) (hlink : r'.link? k = r.link? k) (calls : List Call)
      (hcalls : r'.calls = r.calls ++ calls) (hquiet : calls.filter Call.isProbe = []) :
      Watch k r' inFlight log
  | turn {r r' : Rig (Traced σ) τ} {inFlight inFlight' : List Attempt} {cause : Cause} {due : Option Edge}
      {log : List (Tick τ)} {l l' : Link τ} (h : Watch k r inFlight log)
      (hturn : Turn k r inFlight cause due r' inFlight') (hl : r.link? k = some l)
      (hl' : r'.link? k = some l') (calls : List Call) (hcalls : r'.calls = r.calls ++ calls) :
      Watch k r' inFlight' (log ++ ticks r.now l.phase l'.phase calls)

namespace Watch

variable {k : Nat} {r : Rig (Traced σ) τ} {inFlight : List Attempt} {log : List (Tick τ)}

theorem moment (h : Watch k r inFlight log) : Moment k r inFlight := by
  induction h with
  | made r options host port sink hk hcalls => exact .made r options host port sink hk
  | elsewhere _ hlink calls hcalls hquiet ih => exact ih.elsewhere hlink
  | turn _ hturn _ _ _ _ ih => exact hturn.moment ih

/-- Every probe is a tick. -/
theorem length_probings (h : Watch k r inFlight log) :
    (r.calls.filter Call.isProbe).length = (probings log).length := by
  induction h with
  | made r options host port sink hk hcalls =>
      have hfresh : (r.addLink options (.of host port) sink).2.calls = [] := hcalls
      rw [hfresh]
      rfl
  | elsewhere _ hlink calls hcalls hquiet ih => rw [hcalls, List.filter_append, hquiet, List.append_nil, ih]
  | turn _ hturn hl hl' calls hcalls ih =>
      rw [hcalls, List.filter_append, List.length_append, ih, probings_append, List.length_append,
        length_probings_ticks]

/-- A call on the outside that does not probe is no tick. -/
theorem via {α : Type} (h : Watch k r inFlight log) (call : Traced σ → α × Traced σ) (calls : List Call)
    (hcalls : (r.via call).2.calls = r.calls ++ calls) (hquiet : calls.filter Call.isProbe = []) :
    Watch k (r.via call).2 inFlight log :=
  h.elsewhere (link?_of_stations (stations_via r call) k) calls hcalls hquiet

end Watch

/-- The run has gone on from its ticks so far. -/
def Watched (k : Nat) (log : List (Tick τ)) (inFlight : List Attempt) (r : Rig (Traced σ) τ) : Prop :=
  ∃ more, Watch k r inFlight (log ++ more)

namespace Watched

variable {k : Nat} {r r' : Rig (Traced σ) τ} {inFlight : List Attempt} {log : List (Tick τ)}

theorem via {α : Type} (h : Watched k log inFlight r) (call : Traced σ → α × Traced σ) (calls : List Call)
    (hcalls : (r.via call).2.calls = r.calls ++ calls) (hquiet : calls.filter Call.isProbe = []) :
    Watched k log inFlight (r.via call).2 := by
  obtain ⟨more, h⟩ := h
  exact ⟨more, h.via call calls hcalls hquiet⟩

theorem quietly (h : Watched k log inFlight r) (hstations : r'.stations = r.stations)
    (houtside : r'.outside = r.outside) : Watched k log inFlight r' := by
  obtain ⟨more, h⟩ := h
  have hcalls : r'.calls = r.calls ++ [] := by
    rw [List.append_nil]
    exact congrArg Traced.calls houtside
  exact ⟨more, h.elsewhere (link?_of_stations hstations k) [] hcalls rfl⟩

end Watched

end

variable [Ring τ] [LinearOrder τ] [IsStrictOrderedRing τ]

variable {k : Nat} {r r' : Rig (Traced σ) τ} {l l' : Link τ} {inFlight inFlight' : List Attempt}
  {cause : Cause} {due : Option Edge} {log : List (Tick τ)}

/-- A hold of the lock keeps the interval between probes. -/
theorem Turn.metered (h : Turn k r inFlight cause due r' inFlight') (hr : Moment k r inFlight)
    (hl : r.link? k = some l) (hl' : r'.link? k = some l') :
    ∃ calls, r'.calls = r.calls ++ calls ∧ l'.health.interval = l.health.interval ∧
      Metered l.health.interval l.checkedAt? (ticks r.now l.phase l'.phase calls) l'.checkedAt? := by
  have hsound := hr.sound_of_link hl
  have hstamped := h.stamped hr hl hl'
  have hquiet (operation : Link τ → Link τ × List (LinkAction τ)) (heq : r' = r.change k operation)
      (hhealth : (operation l).1.health = l.health) :
      ∃ calls, r'.calls = r.calls ++ calls ∧ l'.health.interval = l.health.interval ∧
        Metered l.health.interval l.checkedAt? (ticks r.now l.phase l'.phase calls) l'.checkedAt? := by
    obtain rfl : l' = (operation l).1 :=
      Option.some.inj (hl'.symm.trans (heq ▸ link?_change hl operation))
    exact ⟨_, heq ▸ calls_change hl operation, by rw [hhealth],
      hstamped.metered (fun _ => hhealth) (filter_isProbe_calls _) _⟩
  cases h with
  | setEnabled _ on =>
      exact hquiet (·.setEnabled r.now on) rfl (hsound.directed_setEnabled r.now on).health_eq
  | configure _ host port =>
      exact hquiet (·.configure r.now (.of host port)) rfl
        (hsound.directed_configure r.now host port).health_eq
  | shutDown _ =>
      exact hquiet (·.shutDown r.now) rfl (hsound.directed_setEnabled r.now false).health_eq
  | look _ =>
      obtain ⟨alive, r₁, hdoes, hlook⟩ := Does.look hl
      have hcalls := calls_perform (r₁.setLink k (l.poll r.now alive).1) (l.poll r.now alive).2.1
      rw [calls_setLink, hdoes.calls_eq, List.append_assoc] at hcalls
      have hlink := (link?_perform _ (l.poll r.now alive).2.1 k).trans
        (link?_setLink hdoes.after (l.poll r.now alive).1)
      rw [hlook] at hl' ⊢
      obtain rfl := Option.some.inj (hl'.symm.trans hlink)
      refine ⟨_, hcalls, ?_, ?_⟩
      · rw [hsound.health_poll]
        split <;> rfl
      · rw [ticks_append_actions]
        exact hsound.metered_poll r.now alive
  | conclude a _ id up =>
      obtain rfl := Option.some.inj (hl'.symm.trans (link?_conclude hl a id up))
      have hdown : l.phase ≠ .connected :=
        fun hconnected => List.cons_ne_nil a _ (hsound.nil_of_connected hconnected)
      exact ⟨_, calls_conclude hl a id up, l.interval_settle r.now a id up,
        hstamped.metered (fun hconnected => absurd hconnected hdown) (filter_isProbe_calls _) _⟩
  | abort a _ => exact hquiet (fun l => (l.abort, [])) rfl rfl
  | sent _ m delivered =>
      obtain ⟨counters, heq⟩ := (l.counts_sent m delivered).counters
      exact hquiet (·.sent m delivered) rfl (by rw [heq])
  | countSent _ => exact hquiet (fun l => (l.countSent, [])) rfl rfl
  | countFailed _ => exact hquiet (fun l => (l.countFailed, [])) rfl rfl
  | accept _ line =>
      exact hquiet (fun l => (l.accept line).2) (accept_eq_change r k line) (l.health_accept line)

/-- The interval between probes is kept all along, by induction on the run. -/
theorem Watch.metered (h : Watch k r inFlight log) (hl : r.link? k = some l) :
    Metered l.health.interval none log l.checkedAt? := by
  induction h generalizing l with
  | made r options host port sink hk hcalls =>
      subst hk
      rw [link?_addLink] at hl
      cases hl
      exact .none none
  | elsewhere _ hlink calls hcalls hquiet ih => exact ih (hlink.symm.trans hl)
  | turn h hturn hl₀ hl₁ calls hcalls ih =>
      obtain rfl := Option.some.inj (hl₁.symm.trans hl)
      obtain ⟨made, hmade, hinterval, hmetered⟩ := hturn.metered h.moment hl₀ hl₁
      obtain rfl := List.append_cancel_left (hmade.symm.trans hcalls)
      rw [hinterval]
      exact (ih hl₀).append hmetered

namespace Watched

theorem turn (h : Watched k log inFlight r) (hturn : Turn k r inFlight cause due r' inFlight') :
    Watched k log inFlight' r' := by
  obtain ⟨more, h⟩ := h
  obtain ⟨l, hl, -⟩ := h.moment.sound
  obtain ⟨l', hl', -⟩ := (hturn.moment h.moment).sound
  obtain ⟨calls, hcalls, -⟩ := hturn.metered h.moment hl hl'
  have hturned := h.turn hturn hl hl' calls hcalls
  rw [List.append_assoc] at hturned
  exact ⟨_, hturned⟩

/-- Whole updates go on with a run. -/
theorem updating (k : Nat) (log : List (Tick τ)) : Updating k (Watched (σ := σ) k log) where
  build limits target h := h.via _ _ (calls_build _ limits target) rfl
  approach id h := h.via _ [] (by simp) rfl
  connect id h := h.via _ _ (calls_connect _ id) rfl
  look h := h.turn (.look _)
  conclude id up h := h.turn (.conclude _ _ id up)
  abort h := h.turn (.abort _ _)
  record _ h := h.quietly rfl rfl

/-- Sending, receiving and requests go on with a run. -/
theorem messaging (k : Nat) (log : List (Tick τ)) (inFlight : List Attempt) :
    Messaging k (Watched (σ := σ) k log inFlight) where
  report _ h := h.quietly rfl rfl
  sending id bytes h := h.via _ [.send id bytes _] rfl rfl
  receiving id h := h.via _ [.receive id _] rfl rfl
  exchanging id bytes h := h.via _ [.exchange id bytes _] rfl rfl
  sent m delivered h := h.turn (.sent _ m delivered)
  countSent h := h.turn (.countSent _)
  countFailed h := h.turn (.countFailed _)
  accept line h := h.turn (.accept _ line)

end Watched

end Rig

/-- An update of a connected link whose health is due begins with a probe. -/
theorem Link.Transition.probes {τ : Type} [Sub τ] [Mul τ] [LE τ] [LT τ] [DecidableLT τ] {l l' : Link τ}
    {now later : τ} {calls : List Call} {outcome : Except Fault (Option Edge)}
    (h : l.Transition now later calls outcome l') (hconnected : l.phase = .connected)
    (hdue : l.health.interval ≤ now - l.health.begunAt) :
    ∃ id alive, l.transport = some id ∧ [.probe id alive] <+: calls := by
  cases h with
  | unchecked _ hwait => exact absurd hdue hwait
  | alive _ _ id howns => exact ⟨id, true, howns, List.prefix_rfl⟩
  | lost _ _ id howns => exact ⟨id, false, howns, List.prefix_append _ _⟩
  | raised hdue _ _ _ => rcases hdue with hother | ⟨hother, -⟩ <;> cases hconnected.symm.trans hother
  | _ => simp_all

namespace Rig

variable {σ τ : Type} [Carrier σ τ]

section
variable [Zero τ] [Sub τ] [Mul τ] [LE τ] [DecidableLE τ] [LT τ] [DecidableLT τ]

variable {k : Nat} {r : Rig (Traced σ) τ} {l : Link τ} {inFlight : List Attempt}

/-- A connected link whose health is not due makes no call in an update. -/
theorem Moment.update_waits (h : Moment k r inFlight) (hl : r.link? k = some l)
    (hconnected : l.phase = .connected) (hwait : l.health.isDue r.now = false)
    (window reaction : Rig (Traced σ) τ → Rig (Traced σ) τ) :
    (r.update k window reaction).2.calls = r.calls := by
  have hsound := h.sound_of_link hl
  obtain rfl := hsound.nil_of_connected hconnected
  obtain ⟨s, hs, rfl⟩ := Option.map_eq_some_iff.mp hl
  obtain ⟨r', status, hlook, houtside, -⟩ := look_of_not_due hl hsound hconnected hwait
  have hupdate : r.update k window reaction = (.ok (), r') := by simp only [Rig.update, hs, hlook]
  rw [hupdate]
  exact congrArg Traced.calls houtside

/-- A connected link whose health is due is probed by an update, before anything else is done. -/
theorem Moment.update_probes (h : Moment k r inFlight) (hl : r.link? k = some l)
    (hconnected : l.phase = .connected) (hdue : l.health.interval ≤ r.now - l.health.begunAt) :
    ∃ id alive, l.transport = some id ∧
      ∀ window reaction, (∀ r' : Rig (Traced σ) τ, r'.calls <+: (reaction r').calls) →
        r.calls ++ [.probe id alive] <+: (r.update k window reaction).2.calls := by
  obtain ⟨s, hs, rfl⟩ := Option.map_eq_some_iff.mp hl
  obtain rfl := (h.sound_of_link hl).nil_of_connected hconnected
  obtain ⟨calls, l₁, status, r₁, hdoes, ⟨edge, hlook, hrow⟩ | ⟨-, -, -, hattempt⟩⟩ := h.look_table hl r.now
  · obtain ⟨id, alive, howns, hfirst⟩ := hrow.probes hconnected hdue
    refine ⟨id, alive, howns, fun window reaction hreaction => ?_⟩
    have hprobed : r.calls ++ [.probe id alive] <+: r₁.calls := by
      rw [hdoes.calls_eq]
      exact (List.prefix_append_right_inj r.calls).mpr hfirst
    cases edge with
    | none =>
        have hupdate : r.update k window reaction = (.ok (), r₁) := by
          simp only [Rig.update, hs, hlook, Polled.ofEdge]
        rwa [hupdate]
    | some e =>
        have hupdate : r.update k window reaction = (.ok (), r₁.tell s.sink e reaction) := by
          simp only [Rig.update, hs, hlook, Polled.ofEdge]
        rw [hupdate]
        refine tell_keeps (P := fun r' => r.calls ++ [.probe id alive] <+: r'.calls) ?_ ?_ s.sink e hprobed
        · exact fun _ _ hr' => hr'
        · exact fun r' hr' => hr'.trans (hreaction r')
  · rcases hattempt with hother | ⟨hother, -⟩ <;> cases hconnected.symm.trans hother

end

/-- The law of the probes, under any schedule of updates, with any other calls in between and whatever the
clock does.  The ticks of a run account for every probe that is made.  In a stay in the connected phase its
beginning and its probes are all at least the interval apart, so that a window has room for as many probes as
there are whole intervals in its length, and one more; outside a stay no probe is made.  While the link is
connected, an update probes its transport at once if the interval has passed since the stay began and since
its last probe, and makes no call at all if it has not. -/
theorem Watch.probes_spaced [Field τ] [LinearOrder τ] [IsStrictOrderedRing τ] [FloorSemiring τ] {k : Nat}
    {r : Rig (Traced σ) τ} {l : Link τ} {inFlight : List Attempt} {log : List (Tick τ)}
    (h : Watch k r inFlight log) (hl : r.link? k = some l) (hpositive : 0 < l.health.interval) :
    (r.calls.filter Call.isProbe).length = (probings log).length ∧
      (∀ before entry (probes : List τ) after, log = before ++ .entered entry :: (probes.map .probed ++ after) →
        (entry :: probes).Pairwise (fun time later => time + l.health.interval ≤ later) ∧
          ∀ start length, (probes.filter fun t => start ≤ t ∧ t ≤ start + length).length ≤
            ⌊length / l.health.interval⌋₊ + 1) ∧
      (∀ before time after, log = before ++ .probed time :: after → ∃ earlier entry, ∃ probes : List τ,
        before = earlier ++ .entered entry :: probes.map .probed) ∧
      (l.phase = .connected → ∃ earlier entry, ∃ probes : List τ,
        log = earlier ++ .entered entry :: probes.map .probed ∧
          (probes.getLastD entry + l.health.interval ≤ r.now → ∃ id alive, l.transport = some id ∧
            ∀ window reaction, (∀ r' : Rig (Traced σ) τ, r'.calls <+: (reaction r').calls) →
              r.calls ++ [.probe id alive] <+: (r.update k window reaction).2.calls) ∧
          (r.now < probes.getLastD entry + l.health.interval → ∀ window reaction,
            (r.update k window reaction).2.calls = r.calls)) := by
  have hmetered := h.metered hl
  refine ⟨h.length_probings, ?_, ?_, fun hconnected => ?_⟩
  · rintro before entry probes after rfl
    obtain ⟨middle, -, hstay⟩ := hmetered.split
    cases hstay with
    | entered hstay =>
        have hspaced := hstay.spaced hpositive.le
        refine ⟨hspaced, fun start length => length_filter_le_of_spaced hpositive hspaced.of_cons ?_ start⟩
        exact (div_lt_iff₀ hpositive).mp (Nat.lt_floor_add_one _)
  · rintro before time after rfl
    obtain ⟨middle, hbefore, hprobed⟩ := hmetered.split
    cases hprobed with
    | probed _ _ =>
        rcases hbefore.stay with ⟨earlier, entry, probes, hlog, -⟩ | ⟨_, _, hnone, -⟩
        · exact ⟨earlier, entry, probes, hlog⟩
        · cases hnone
  · rw [Link.checkedAt?, if_pos hconnected] at hmetered
    rcases hmetered.stay with ⟨earlier, entry, probes, hlog, hlast⟩ | ⟨_, _, hnone, -⟩
    · refine ⟨earlier, entry, probes, hlog, fun hdue => ?_, fun hearly window reaction => ?_⟩
      · rw [← hlast] at hdue
        exact h.moment.update_probes hl hconnected (le_sub_iff_add_le'.mpr hdue)
      · rw [← hlast] at hearly
        exact h.moment.update_waits hl hconnected ((isDue_eq_false_iff _ _).mpr hearly) window reaction
    · cases hnone

/-- Five seconds after its first probe a connected link is probed again. -/
theorem probes_spaced_second_probe :
    ∃ (r : Rig (Traced (Scripted ℚ)) ℚ) (l : Link ℚ) (transport : Nat) (alive : Bool),
      Watch 0 r [] [.entered 0, .probed 5] ∧ r.link? 0 = some l ∧ 0 < l.health.interval ∧
      (r.calls.filter Call.isProbe).length = 1 ∧ r.now = 10 ∧ l.transport = some transport ∧
      r.calls ++ [.probe transport alive] <+: (r.update 0 id id).2.calls := by
  let wait (time : ℚ) (o : Traced (Scripted ℚ)) : Unit × Traced (Scripted ℚ) :=
    ((), { o with outside := { o.outside with clock := time } })
  have hmade := Watch.made ({ outside := ⟨{ clock := 0 }, []⟩ } : Rig (Traced (Scripted ℚ)) ℚ)
    ⟨⟨3, 1, defaultLineLimit⟩, {}, 5, 0, .start 1 2 30⟩ "10.0.0.2" 7000 .log rfl rfl
  have hready := (hmade.turn (.setEnabled [] true) rfl rfl [] rfl).turn (.look []) rfl rfl []
    (by with_unfolding_all rfl)
  have hclaimed := hready.turn (.look []) rfl rfl [] (by with_unfolding_all rfl)
  have hbuilt := (hclaimed.via (fun o => Carrier.build o ⟨3, 1, defaultLineLimit⟩ (.of "10.0.0.2" 7000)) _
    rfl rfl).via (fun o => Carrier.connect o 0) _ rfl rfl
  have hup := (hbuilt.turn (.conclude ⟨0, .connecting, .of "10.0.0.2" 7000⟩ [] 0 true) rfl rfl []
    (by with_unfolding_all rfl)).via (wait 5) [] (by with_unfolding_all rfl) rfl
  have hprobed := (hup.turn (.look []) rfl (by with_unfolding_all rfl) [.probe 0 true]
    (by with_unfolding_all rfl)).via (wait 10) [] (by with_unfolding_all rfl) rfl
  obtain ⟨r, inFlight, log, hrun, rfl, rfl, hlink, hnow⟩ :
      ∃ (r : Rig (Traced (Scripted ℚ)) ℚ) (inFlight : List Attempt) (log : List (Tick ℚ)),
        Watch 0 r inFlight log ∧ inFlight = [] ∧ log = [.entered 0, .probed 5] ∧
        (r.link? 0).map (fun l => (l.phase, l.health.interval)) = some (.connected, 5) ∧ r.now = 10 := by
    refine ⟨_, _, _, hprobed, ?_, ?_, ?_, ?_⟩ <;> with_unfolding_all rfl
  obtain ⟨l, hl, hvalues⟩ := Option.map_eq_some_iff.mp hlink
  obtain ⟨hphase, hinterval⟩ := Prod.mk.inj hvalues
  have hpositive : 0 < l.health.interval := by rw [hinterval]; norm_num
  obtain ⟨haccounted, -, -, hstanding⟩ := hrun.probes_spaced hl hpositive
  obtain ⟨earlier, entry, probes, hlog, hdue, -⟩ := hstanding hphase
  have hlast : probes.getLastD entry = 5 := by
    rcases earlier with _ | ⟨_, _ | ⟨_, _⟩⟩ <;> simp at hlog
    obtain rfl : [5] = probes := List.map_injective_iff.mpr (fun _ _ => Tick.probed.inj) hlog.2
    rfl
  rw [hlast, hinterval, hnow] at hdue
  obtain ⟨transport, alive, howns, hupdate⟩ := hdue (by norm_num)
  exact ⟨r, l, transport, alive, hrun, hl, hpositive, haccounted, hnow, howns,
    hupdate id id fun _ => List.prefix_rfl⟩

end Rig

end PeripheralLink

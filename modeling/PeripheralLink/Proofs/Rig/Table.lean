import PeripheralLink.Proofs.Rig.Moment
import PeripheralLink.Proofs.Rig.Traced
/-!
The transition table.  `Link.Transition` lists its rows: what an update finds, the calls it makes, the
edge it tells and the link it leaves.  `Rig.Moment.follows_table` says that every update between calls is
one of these rows, and that turning the link on or off and changing its target make no other change of
phase than entering and leaving the disabled phase.
-/

namespace PeripheralLink

/-- The poll that tells an edge, if there is one. -/
def Polled.ofEdge : Option Edge → Polled
  | none => .quiet
  | some e => .edge e

/-- The calls by which a transport is built and connected, with what they come to. -/
inductive Dialed (target : Target) : Except Fault (Nat × Bool) → List Call → Prop
  | unbuilt (fault : Fault) : Dialed target (.error fault) [.build target (.error fault)]
  | broken (id : Nat) (fault : Fault) :
      Dialed target (.error fault) [.build target (.ok id), .connect id (.error fault)]
  | done (id : Nat) (up : Bool) :
      Dialed target (.ok (id, up)) [.build target (.ok id), .connect id (.ok up)]

section Table

variable {τ : Type} [Sub τ] [Mul τ] [LE τ] [LT τ] [DecidableLT τ]

/-- The rows of the table: an update that begins at `now` and whose attempt, if it makes one, ends at
`later`. -/
inductive Link.Transition (l : Link τ) (now later : τ) :
    List Call → Except Fault (Option Edge) → Link τ → Prop
  | disabled (hphase : l.phase = .disabled) : Transition l now later [] (.ok none) l
  | disconnected (hphase : l.phase = .disconnected) :
      Transition l now later [] (.ok none) { l with phase := .connecting, enteredAt := now }
  | connected (hphase : l.phase = .connecting) (id : Nat) :
      Transition l now later [.build l.target (.ok id), .connect id (.ok true)] (.ok (some .connected))
        { l with
          phase := .connected
          enteredAt := later
          transport := some id
          health := { l.health with begunAt := later }
          backoff := { l.backoff with delay := l.backoff.initial }
          failures := 0
          counters := { l.counters with attempts := l.counters.attempts + 1 } }
  | unreachable (hphase : l.phase = .connecting) (id : Nat) :
      Transition l now later [.build l.target (.ok id), .connect id (.ok false), .disconnect id]
        (.ok none)
        { l with
          phase := .reconnecting
          enteredAt := later
          failures := l.failures + 1
          counters := { l.counters with attempts := l.counters.attempts + 1 } }
  | unchecked (hphase : l.phase = .connected)
      (hwait : ¬ l.health.interval ≤ now - l.health.begunAt) : Transition l now later [] (.ok none) l
  | alive (hphase : l.phase = .connected) (hdue : l.health.interval ≤ now - l.health.begunAt) (id : Nat)
      (howns : l.transport = some id) :
      Transition l now later [.probe id true] (.ok none)
        { l with health := { l.health with begunAt := now } }
  | lost (hphase : l.phase = .connected) (hdue : l.health.interval ≤ now - l.health.begunAt) (id : Nat)
      (howns : l.transport = some id) :
      Transition l now later [.probe id false, .disconnect id] (.ok (some .disconnected))
        { l with
          phase := .reconnecting
          enteredAt := now
          transport := none
          health := { l.health with begunAt := now } }
  | waiting (hphase : l.phase = .reconnecting) (hwait : ¬ l.backoff.delay ≤ now - l.enteredAt) :
      Transition l now later [] (.ok none) l
  | reconnected (hphase : l.phase = .reconnecting) (hdue : l.backoff.delay ≤ now - l.enteredAt)
      (id : Nat) :
      Transition l now later [.build l.target (.ok id), .connect id (.ok true)] (.ok (some .reconnected))
        { l with
          phase := .connected
          enteredAt := later
          transport := some id
          health := { l.health with begunAt := later }
          backoff := { l.backoff with delay := l.backoff.initial }
          failures := 0
          counters := { l.counters with
            attempts := l.counters.attempts + 1
            reconnects := l.counters.reconnects + 1 } }
  | retried (hphase : l.phase = .reconnecting) (hdue : l.backoff.delay ≤ now - l.enteredAt) (id : Nat) :
      Transition l now later [.build l.target (.ok id), .connect id (.ok false), .disconnect id]
        (.ok none)
        { l with
          enteredAt := later
          backoff := { l.backoff with
            delay := if l.backoff.cap < l.backoff.delay * l.backoff.multiplier then l.backoff.cap
              else l.backoff.delay * l.backoff.multiplier }
          failures := l.failures + 1
          counters := { l.counters with attempts := l.counters.attempts + 1 } }
  /-- The outside breaks down while a transport is built or connected. -/
  | raised (hdue : l.phase = .connecting ∨
        l.phase = .reconnecting ∧ l.backoff.delay ≤ now - l.enteredAt) (fault : Fault)
      (calls : List Call) (hcalls : Dialed l.target (.error fault) calls) :
      Transition l now later calls (.error fault)
        { l with counters := { l.counters with attempts := l.counters.attempts + 1 } }

/-- What turning the link on or off and changing its target come to: the phase follows the wish and
the target, and a transport is released on the way to the disabled phase. -/
inductive Link.Directed (l : Link τ) (now : τ) (wish : Bool) (target : Target) :
    List Call → Link τ → Prop
  | off (hphase : l.phase ≠ .disabled) (hwish : ¬ (wish = true ∧ target.isValid = true))
      (generation : Nat) :
      Directed l now wish target (l.transport.toList.map .disconnect)
        { l with
          enabled := wish
          target
          generation
          phase := .disabled
          enteredAt := now
          transport := none }
  | on (hphase : l.phase = .disabled) (hwish : wish = true ∧ target.isValid = true)
      (generation : Nat) :
      Directed l now wish target []
        { l with enabled := wish, target, generation, phase := .disconnected, enteredAt := now }
  | stay (hwish : l.phase = .disabled ↔ ¬ (wish = true ∧ target.isValid = true)) (generation : Nat) :
      Directed l now wish target [] { l with enabled := wish, target, generation }

end Table

namespace Link

variable {τ : Type} {l : Link τ} {inFlight : List Attempt}

theorem calls_leave (l : Link τ) (now : τ) (next : Phase) :
    (l.leave now next).2.flatMap LinkAction.calls = l.transport.toList.map .disconnect := by
  cases htransport : l.transport <;> simp [leave, giveUp, enter, htransport, LinkAction.calls]

theorem Sound.directed_setEnabled (h : l.Sound inFlight) (now : τ) (on : Bool) :
    l.Directed now on l.target ((l.setEnabled now on).2.flatMap LinkAction.calls)
      (l.setEnabled now on).1 := by
  by_cases hwish : on = true ∧ l.target.isValid = true
  · obtain ⟨rfl, hvalid⟩ := hwish
    by_cases hphase : l.phase = .disabled
    · have hentered : l.Directed now true l.target [] _ := .on hphase ⟨rfl, hvalid⟩ l.generation
      simpa [Link.setEnabled, hphase, hvalid, enter, LinkAction.calls] using hentered
    · have hstays : l.phase = .disabled ↔ ¬ (true = true ∧ l.target.isValid = true) := by
        simp [hphase, hvalid]
      have hkept : l.Directed now true l.target [] _ := .stay hstays l.generation
      simpa [Link.setEnabled, hphase] using hkept
  · by_cases hphase : l.phase = .disabled
    · have hstays : l.phase = .disabled ↔ ¬ (on = true ∧ l.target.isValid = true) := by
        simpa [hphase] using hwish
      have hkept : l.Directed now on l.target [] _ := .stay hstays l.generation
      cases on with
      | false => simpa [Link.setEnabled, hphase] using hkept
      | true => simpa [Link.setEnabled, hphase, LinkAction.calls, by simpa using hwish] using hkept
    · have hon : on = false := by
        have hvalid := (h.enabled_of_ne_disabled hphase).2
        simpa [hvalid] using hwish
      have hleft : l.Directed now on l.target _ _ := .off hphase hwish (l.generation + 1)
      subst hon
      simp only [Link.setEnabled, hphase, Bool.false_eq_true, ↓reduceIte, calls_leave]
      exact hleft

theorem calls_configure (l : Link τ) (now : τ) (target : Target) :
    (l.configure now target).2.flatMap LinkAction.calls =
      if target.isValid = true ∨ l.phase = .disabled then []
      else l.transport.toList.map .disconnect := by
  unfold configure
  by_cases hvalid : target.isValid = true
  · by_cases hwait : l.enabled = true ∧ l.phase = .disabled
    · simp [hvalid, hwait, enter, LinkAction.calls]
    · simp [hvalid, hwait, LinkAction.calls]
  · by_cases hphase : l.phase = .disabled
    · simp [hvalid, hphase, LinkAction.calls]
    · simp only [hvalid, hphase, Bool.false_eq_true, ↓reduceIte, or_self, List.flatMap_cons, calls_leave]
      rfl

theorem Sound.directed_configure (h : l.Sound inFlight) (now : τ) (host : String) (port : Int) :
    l.Directed now l.enabled (.of host port)
      ((l.configure now (.of host port)).2.flatMap LinkAction.calls)
      (l.configure now (.of host port)).1 := by
  rw [calls_configure]
  rcases configure_cases l now (.of host port) with
    ⟨hvalid, henabled, hphase, heq⟩ | ⟨hvalid, hwait, heq⟩ | ⟨hvalid, hphase, heq⟩ |
      ⟨hvalid, hphase, heq⟩
  · rw [heq, if_pos (.inl hvalid)]
    exact .on hphase ⟨henabled, hvalid⟩ _
  · rw [heq, if_pos (.inl hvalid)]
    refine .stay ⟨?_, ?_⟩ _
    · intro hphase hwish
      exact hwait ⟨hwish.1, hphase⟩
    · intro hwish
      apply h.disabled_iff.mpr
      intro hold
      exact hwish ⟨hold.1, hvalid⟩
  · rw [heq, if_pos (.inr hphase)]
    refine .stay ?_ _
    simp [hphase, hvalid]
  · rw [heq, if_neg (by simp [hvalid, hphase])]
    exact .off hphase (by simp [hvalid]) _

theorem Sound.not_attempting (h : l.Sound []) : l.attempting = false := by
  have hlength := h.length_inFlight
  cases hattempting : l.attempting <;> simp [hattempting] at hlength ⊢

/-- An attempt that breaks down leaves a link that has only counted it. -/
theorem Sound.abort_claim (h : l.Sound inFlight) (hidle : l.attempting = false)
    (hphase : l.phase ≠ .connected) (status : IntervalClock τ) :
    ({ l.claim.1 with status } : Link τ).abort =
      { l with counters := { l.counters with attempts := l.counters.attempts + 1 }, status } := by
  have htransport := h.transport_eq_none hphase
  simp [Link.claim, giveUp, Link.abort, htransport, hidle]

section

variable [Sub τ] [LE τ] [DecidableLE τ]

/-- Between attempts, the peer is probed exactly when the link is connected and its health is due. -/
theorem Sound.probe?_eq (h : l.Sound inFlight) (hidle : l.attempting = false) (now : τ) :
    l.probe? now = if l.phase = .connected ∧ l.health.isDue now = true then l.transport else none := by
  by_cases hphase : l.phase = .connected
  · have henabled := (h.enabled_of_ne_disabled (by simp [hphase])).1
    simp [probe?, hidle, hphase, henabled]
  · simp [probe?, hphase]

variable [Mul τ] [LT τ] [DecidableLT τ]

/-- A step of the phase that claims no attempt is a row of the table, together with the probe before
it. -/
theorem Sound.transition_advance (h : l.Sound inFlight) (hidle : l.attempting = false) (now later : τ)
    (alive : Bool) :
    (∃ edge, (l.advance now alive).2.2 = .ofEdge edge ∧
      l.Transition now later ((l.probe? now).toList.map (.probe · alive) ++
        (l.advance now alive).2.1.flatMap LinkAction.calls) (.ok edge) (l.advance now alive).1) ∨
    ((l.phase = .connecting ∨ l.phase = .reconnecting ∧ l.backoff.delay ≤ now - l.enteredAt) ∧
      l.probe? now = none ∧ l.advance now alive = l.claim) := by
  have hprobe := h.probe?_eq hidle now
  have hunprobed (hphase : l.phase ≠ .connected) : l.probe? now = none := by
    rw [hprobe, if_neg fun hdue => hphase hdue.1]
  have hprobed (hphase : l.phase = .connected) (hdue : l.health.isDue now = true) :
      ∃ id, l.transport = some id ∧ l.probe? now = some id := by
    obtain ⟨id, hid⟩ := Option.isSome_iff_exists.mp (h.owns_iff.mpr hphase)
    exact ⟨id, hid, by rw [hprobe, if_pos ⟨hphase, hdue⟩, hid]⟩
  rcases h.advance_cases now alive with
    ⟨heq, hstay⟩ | ⟨hphase, heq⟩ | ⟨hdue, heq⟩ | ⟨hphase, hdue, halive', heq⟩ |
      ⟨hphase, hdue, hdead, heq⟩
  · refine .inl ⟨none, by rw [heq]; rfl, ?_⟩
    rw [heq]
    rcases hstay with hphase | ⟨hphase, hwait⟩ | ⟨hphase, hwait⟩
    · rw [hunprobed (by simp [hphase])]
      exact .disabled hphase
    · rw [hprobe, if_neg (by simp [hwait])]
      exact .unchecked hphase (by simpa [IntervalClock.isDue] using hwait)
    · rw [hunprobed (by simp [hphase])]
      exact .waiting hphase hwait
  · refine .inl ⟨none, by rw [heq]; rfl, ?_⟩
    rw [heq, hunprobed (by simp [hphase])]
    exact .disconnected hphase
  · refine .inr ⟨hdue, hunprobed ?_, heq⟩
    rcases hdue with hphase | ⟨hphase, _⟩ <;> simp [hphase]
  · obtain ⟨id, hid, hsome⟩ := hprobed hphase hdue
    refine .inl ⟨none, by rw [heq]; rfl, ?_⟩
    rw [heq, hsome, halive']
    exact .alive hphase (by simpa [IntervalClock.isDue] using hdue) id hid
  · obtain ⟨id, hid, hsome⟩ := hprobed hphase hdue
    refine .inl ⟨some .disconnected, by rw [heq]; rfl, ?_⟩
    have helapsed : l.health.interval ≤ now - l.health.begunAt := by
      simpa [IntervalClock.isDue] using hdue
    have hlost : l.Transition now later _ _ _ := .lost hphase helapsed id hid
    rw [heq, hsome, hdead]
    simp only [List.flatMap_cons, calls_leave, hid]
    exact hlost

end

/-- An attempt that is due is a row of the table once its outcome has been applied. -/
theorem Sound.transition_settle [Sub τ] [Mul τ] [LE τ] [LT τ] [DecidableLT τ] (h : l.Sound inFlight)
    (hidle : l.attempting = false) {now : τ}
    (hdue : l.phase = .connecting ∨ l.phase = .reconnecting ∧ l.backoff.delay ≤ now - l.enteredAt)
    (status : IntervalClock τ) (later : τ) (id : Nat) (up : Bool) {settled : Link τ}
    {actions : List (LinkAction τ)} {edge : Option Edge}
    (hsettle : ({ l.claim.1 with status } : Link τ).settle later ⟨l.generation, l.phase, l.target⟩ id
      up = (settled, actions, edge)) :
    ∃ l', settled = { l' with status } ∧ l.Transition now later
      ([.build l.target (.ok id), .connect id (.ok up)] ++ actions.flatMap LinkAction.calls)
      (.ok edge) l' := by
  have htransport : l.transport = none := by
    apply h.transport_eq_none
    rcases hdue with hphase | ⟨hphase, _⟩ <;> simp [hphase]
  cases up with
  | true =>
      obtain ⟨reports, hup⟩ := settle_up (l := { l.claim.1 with status })
        (a := ⟨l.generation, l.phase, l.target⟩) rfl later id
      simp only [hup, Prod.mk.injEq] at hsettle
      obtain ⟨rfl, rfl, rfl⟩ := hsettle
      rw [calls_reports, List.append_nil]
      rcases hdue with hphase | ⟨hphase, hdelay⟩
      · have hrow : l.Transition now later _ _ _ := .connected hphase id
        refine ⟨_, ?_, by simpa [hphase] using hrow⟩
        simp [risen, Link.claim, giveUp, hphase, hidle, Backoff.reset, IntervalClock.mark]
      · have hrow : l.Transition now later _ _ _ := .reconnected hphase hdelay id
        refine ⟨_, ?_, by simpa [hphase] using hrow⟩
        simp [risen, Link.claim, giveUp, hphase, hidle, Backoff.reset, IntervalClock.mark]
  | false =>
      obtain ⟨reports, hdown⟩ := settle_down (l := { l.claim.1 with status })
        (a := ⟨l.generation, l.phase, l.target⟩) rfl later id
      simp only [hdown, Prod.mk.injEq] at hsettle
      obtain ⟨rfl, rfl, rfl⟩ := hsettle
      rw [List.flatMap_cons, calls_reports, List.append_nil]
      rcases hdue with hphase | ⟨hphase, hdelay⟩
      · have hrow : l.Transition now later _ _ _ := .unreachable hphase id
        refine ⟨_, ?_, hrow⟩
        simp [fallen, Link.claim, giveUp, hphase, hidle, htransport]
      · have hrow : l.Transition now later _ _ _ := .retried hphase hdelay id
        refine ⟨_, ?_, hrow⟩
        simp [fallen, Link.claim, giveUp, hphase, hidle, htransport, Backoff.advance]

section

variable [Zero τ] [Sub τ] [LE τ] [DecidableLE τ] [LT τ] [DecidableLT τ]

theorem poll_of_idle (hidle : l.attempting = false) (now : τ) (alive : Bool) :
    ∃ (status : IntervalClock τ) (reports : List (LinkNotice τ)), l.poll now alive =
      ({ (l.advance now alive).1 with status }, (l.advance now alive).2.1 ++ reports.map .report,
        (l.advance now alive).2.2) := by
  simp only [Link.poll, hidle, Bool.false_eq_true, ↓reduceIte, reportStatus]
  split
  · exact ⟨_, [], rfl⟩
  · exact ⟨_, [_], rfl⟩

end

end Link

namespace Rig

variable {σ τ : Type} [Carrier σ τ]

/-- What may happen to a link without any sink being told: calls on the outside, reports of the link and
changes of the link.  With it come the phases that the link moves to, in order. -/
inductive Silently (k : Nat) (start : Rig σ τ) : List Phase → Rig σ τ → Prop
  | none : Silently k start [] start
  | via {moves : List Phase} {r : Rig σ τ} {α : Type} (h : Silently k start moves r)
      (call : σ → α × σ) : Silently k start moves (r.via call).2
  | report {moves : List Phase} {r : Rig σ τ} (h : Silently k start moves r) (n : LinkNotice τ) :
      Silently k start moves (r.report (.link n))
  | change {moves : List Phase} {r : Rig σ τ} {l : Link τ} (h : Silently k start moves r)
      (hl : r.link? k = some l) (l' : Link τ) :
      Silently k start (moves ++ if l'.phase = l.phase then [] else [l'.phase]) (r.setLink k l')

theorem Silently.perform {k : Nat} {start r : Rig σ τ} {moves : List Phase}
    (h : Silently k start moves r) (actions : List (LinkAction τ)) :
    Silently k start moves (r.perform actions) := by
  induction actions generalizing r with
  | nil => exact h
  | cons action rest ih =>
      cases action with
      | release id => exact ih (h.via _)
      | report n => exact ih (h.report n)

/-- The link is taken from `l` to `l'` by these calls, with at most one change of phase and without any
sink being told. -/
structure Does (k : Nat) (r : Rig (Traced σ) τ) (l : Link τ) (calls : List Call) (l' : Link τ)
    (r' : Rig (Traced σ) τ) : Prop where
  before : r.link? k = some l
  after : r'.link? k = some l'
  calls_eq : r'.calls = r.calls ++ calls
  silently : Silently k r (if l'.phase = l.phase then [] else [l'.phase]) r'

namespace Does

variable {k : Nat} {r r₁ : Rig (Traced σ) τ} {l l₁ : Link τ} {calls : List Call}

theorem none (hl : r.link? k = some l) : Does k r l [] l r where
  before := hl
  after := hl
  calls_eq := (List.append_nil _).symm
  silently := by
    rw [if_pos rfl]
    exact .none

theorem via (h : Does k r l calls l₁ r₁) {α : Type} (call : Traced σ → α × Traced σ)
    (new : List Call) (hnew : (r₁.via call).2.calls = r₁.calls ++ new) :
    Does k r l (calls ++ new) l₁ (r₁.via call).2 where
  before := h.before
  after := h.after
  calls_eq := by rw [hnew, h.calls_eq, List.append_assoc]
  silently := h.silently.via call

/-- The one change of phase comes after changes that keep it. -/
theorem change (h : Does k r l calls l₁ r₁) (hphase : l₁.phase = l.phase) (l' : Link τ)
    (actions : List (LinkAction τ)) :
    Does k r l (calls ++ actions.flatMap LinkAction.calls) l'
      ((r₁.setLink k l').perform actions) where
  before := h.before
  after := (link?_perform _ _ _).trans (link?_setLink h.after l')
  calls_eq := by rw [calls_perform, calls_setLink, h.calls_eq, List.append_assoc]
  silently := by
    have hquiet := h.silently
    rw [if_pos hphase] at hquiet
    have hchanged := (hquiet.change h.after l').perform actions
    rwa [List.nil_append, hphase] at hchanged

end Does

/-- Builds a transport and connects it, with no other call meanwhile. -/
def dial (r : Rig σ τ) (limits : TransportLimits τ) (target : Target) :
    Except Fault (Nat × Bool) × Rig σ τ :=
  match r.via fun o => Carrier.build o limits target with
  | (.error fault, r) => (.error fault, r)
  | (.ok id, r) =>
    match (r.via fun o => ((), Carrier.approach o id)).2.via fun o => Carrier.connect o id with
    | (.error fault, r) => (.error fault, r)
    | (.ok up, r) => (.ok (id, up), r)

/-- What an update answers and leaves once nothing is left but to tell an edge. -/
def told (r : Rig σ τ) (sink : Sink) : Except Fault (Option Edge) → Except Fault Unit × Rig σ τ
  | .ok none => (.ok (), r)
  | .ok (some e) => (.ok (), r.tell sink e id)
  | .error fault => (.error fault, r)

theorem attempt_dial [Mul τ] [LT τ] [DecidableLT τ] (r : Rig σ τ) (k : Nat) (limits : TransportLimits τ)
    (sink : Sink) (a : Attempt) :
    r.attempt k limits sink a id id =
      match r.dial limits a.target with
      | (.error fault, r) => (.error fault, r.abort k)
      | (.ok (id, up), r) => (r.conclude k a id up).2.told sink (.ok (r.conclude k a id up).1) := by
  unfold attempt dial
  cases r.via fun o => Carrier.build o limits a.target with
  | mk built r₁ =>
      cases built with
      | error fault => rfl
      | ok transport =>
          dsimp only [id]
          cases (r₁.via fun o => ((), Carrier.approach o transport)).2.via
              fun o => Carrier.connect o transport with
          | mk connected r₂ =>
              cases connected with
              | error fault => rfl
              | ok up =>
                  dsimp only
                  cases r₂.conclude k a transport up with
                  | mk edge r₃ => cases edge <;> rfl

section

variable {k : Nat} {r r₁ r₂ : Rig (Traced σ) τ} {l l₁ : Link τ} {calls : List Call}
  {limits : TransportLimits τ} {target : Target}

theorem Does.dial (h : Does k r l calls l₁ r₁) {result : Except Fault (Nat × Bool)}
    (hdial : r₁.dial limits target = (result, r₂)) :
    ∃ new, Dialed target result new ∧ Does k r l (calls ++ new) l₁ r₂ := by
  have hbuilt := h.via (fun o => Carrier.build o limits target) _ (calls_build r₁ limits target)
  unfold Rig.dial at hdial
  cases hbuild : r₁.via fun o => Carrier.build o limits target with
  | mk built r₃ =>
      rw [hbuild] at hdial hbuilt
      cases built with
      | error fault =>
          cases hdial
          exact ⟨_, .unbuilt fault, hbuilt⟩
      | ok transport =>
          have hopened := hbuilt.via (fun o => ((), Carrier.approach o transport)) [] (by simp)
          have hconnected :=
            hopened.via (fun o => Carrier.connect o transport) _ (calls_connect _ transport)
          dsimp only at hdial hconnected
          cases hconnect : (r₃.via fun o => ((), Carrier.approach o transport)).2.via
              fun o => Carrier.connect o transport with
          | mk connected r₄ =>
              rw [hconnect] at hdial hconnected
              rw [List.append_nil, List.append_assoc] at hconnected
              cases connected with
              | error fault =>
                  cases hdial
                  exact ⟨_, .broken transport fault, hconnected⟩
              | ok up =>
                  cases hdial
                  exact ⟨_, .done transport up, hconnected⟩

theorem Does.look [Zero τ] [Sub τ] [LE τ] [DecidableLE τ] [LT τ] [DecidableLT τ]
    (hl : r.link? k = some l) :
    ∃ alive r', Does k r l ((l.probe? r.now).toList.map (.probe · alive)) l r' ∧
      r.look k = ((l.poll r.now alive).2.2,
        (r'.setLink k (l.poll r.now alive).1).perform (l.poll r.now alive).2.1) := by
  simp only [Rig.look, hl]
  cases l.probe? r.now with
  | none => exact ⟨true, r, .none hl, rfl⟩
  | some id =>
      have hprobed := (Does.none hl).via (fun o => Carrier.probe o id) _ (calls_probe r id)
      exact ⟨_, _, hprobed, rfl⟩

end

namespace Moment

variable {k : Nat} {r : Rig (Traced σ) τ} {l : Link τ} {inFlight : List Attempt}

/-- An attempt that is due is a row of the table. -/
theorem attempt_table [Sub τ] [Mul τ] [LE τ] [LT τ] [DecidableLT τ] {s : Station τ}
    {r₁ : Rig (Traced σ) τ} {status : IntervalClock τ} (hsound : l.Sound [])
    (hdue : l.phase = .connecting ∨ l.phase = .reconnecting ∧ l.backoff.delay ≤ r.now - l.enteredAt)
    (hclaimed : r.Does k l [] { l.claim.1 with status } r₁) :
    ∃ calls outcome l' r', r.Does k l calls { l' with status } r' ∧
      l.Transition r.now (r₁.dial s.limits l.target).2.now calls outcome l' ∧
      r₁.attempt k s.limits s.sink ⟨l.generation, l.phase, l.target⟩ id id = r'.told s.sink outcome := by
  have hidle := hsound.not_attempting
  rw [attempt_dial]
  cases hdial : r₁.dial s.limits l.target with
  | mk result r₂ =>
      obtain ⟨new, hnew, hdialed⟩ := hclaimed.dial hdial
      cases result with
      | error fault =>
          have hphase : l.phase ≠ .connected := by
            rcases hdue with hphase | ⟨hphase, _⟩ <;> simp [hphase]
          have haborted := hdialed.change rfl ({ l.claim.1 with status } : Link τ).abort []
          have hrow : l.Transition r.now r₂.now _ _ _ := .raised hdue fault new hnew
          rw [← change_eq hdialed.after fun l => (l.abort, [])] at haborted
          rw [hsound.abort_claim hidle hphase, List.flatMap_nil, List.append_nil] at haborted
          exact ⟨_, _, _, _, haborted, hrow, rfl⟩
      | ok outcome =>
          cases hnew with
          | done id up =>
              have hconclude := conclude_eq hdialed.after ⟨l.generation, l.phase, l.target⟩ id up
              cases hsettle : ({ l.claim.1 with status } : Link τ).settle r₂.now
                  ⟨l.generation, l.phase, l.target⟩ id up with
              | mk settled rest =>
                  obtain ⟨actions, edge⟩ := rest
                  obtain ⟨l', rfl, hrow⟩ := hsound.transition_settle hidle hdue status _ id up hsettle
                  have hdone := hdialed.change rfl { l' with status } actions
                  rw [hsettle] at hconclude
                  dsimp only
                  rw [hconclude]
                  exact ⟨_, _, l', _, hdone, hrow, rfl⟩

variable [Zero τ] [Sub τ] [Mul τ] [LE τ] [DecidableLE τ] [LT τ] [DecidableLT τ]

/-- The first part of an update is a row of the table, or claims an attempt that is due. -/
theorem look_table (h : Moment k r []) (hl : r.link? k = some l) (later : τ) :
    ∃ calls l₁ status r₁, r.Does k l calls { l₁ with status } r₁ ∧
      ((∃ edge, r.look k = (.ofEdge edge, r₁) ∧ l.Transition r.now later calls (.ok edge) l₁) ∨
        (r.look k = (.attempt ⟨l.generation, l.phase, l.target⟩, r₁) ∧ calls = [] ∧
          l₁ = l.claim.1 ∧ (l.phase = .connecting ∨
            l.phase = .reconnecting ∧ l.backoff.delay ≤ r.now - l.enteredAt))) := by
  have hsound := h.sound_of_link hl
  have hidle := hsound.not_attempting
  obtain ⟨alive, r', hdoes, hlook⟩ := Does.look hl
  obtain ⟨status, reports, hpoll⟩ := Link.poll_of_idle hidle r.now alive
  rw [hpoll] at hlook
  have hdone := hdoes.change rfl { (l.advance r.now alive).1 with status }
    ((l.advance r.now alive).2.1 ++ reports.map .report)
  refine ⟨_, (l.advance r.now alive).1, status, _, hdone, ?_⟩
  rw [List.flatMap_append, calls_reports, List.append_nil]
  rcases hsound.transition_advance hidle r.now later alive with
    ⟨edge, hedge, hrow⟩ | ⟨hdue, hprobe, hclaim⟩
  · exact .inl ⟨edge, by rw [hlook, hedge], hrow⟩
  · refine .inr ⟨by rw [hlook, hclaim]; rfl, ?_, by rw [hclaim], hdue⟩
    have htransport : l.transport = none := by
      apply hsound.transport_eq_none
      rcases hdue with hphase | ⟨hphase, _⟩ <;> simp [hphase]
    simp [hprobe, hclaim, Link.claim, Link.giveUp, htransport]

/-- The transition table.  An update with no other call inside it takes the link along one row of the
table, with the calls of that row and nothing told but its edge; turning the link on or off and
changing its target take it into the disabled phase, out of it, or leave its phase alone. -/
theorem follows_table {s : Station τ} (h : Moment k r inFlight) (hs : r.stations[k]? = some s) :
    (inFlight = [] → ∃ calls outcome l' status r', r.Does k s.link calls { l' with status } r' ∧
      s.link.Transition r.now ((r.look k).2.dial s.limits s.link.target).2.now calls outcome l' ∧
      r.update k id id = r'.told s.sink outcome) ∧
    (∀ on, ∃ calls l', s.link.Directed r.now on s.link.target calls l' ∧
      r.Does k s.link calls l' (r.setEnabled k on)) ∧
    (∀ host port, ∃ calls l', s.link.Directed r.now s.link.enabled (.of host port) calls l' ∧
      r.Does k s.link calls l' (r.configure k (.of host port))) := by
  have hl : r.link? k = some s.link := by simp [link?, hs]
  obtain ⟨l, hl', hsound⟩ := h.sound
  obtain rfl := Option.some.inj (hl'.symm.trans hl)
  refine ⟨?_, ?_, ?_⟩
  · rintro rfl
    obtain ⟨calls, l₁, status, r₁, hdoes, ⟨edge, hlook, hrow⟩ | ⟨hlook, rfl, rfl, hdue⟩⟩ :=
      h.look_table hl ((r.look k).2.dial s.limits s.link.target).2.now
    · refine ⟨_, _, _, _, _, hdoes, hrow, ?_⟩
      simp only [Rig.update, hs, hlook]
      cases edge <;> rfl
    · obtain ⟨calls, outcome, l', r', hdone, hrow, hattempt⟩ :=
        attempt_table (s := s) hsound hdue hdoes
      rw [hlook]
      refine ⟨calls, outcome, l', status, r', hdone, hrow, ?_⟩
      simp only [Rig.update, hs, hlook]
      exact hattempt
  · intro on
    have hdone := (Does.none hl).change rfl (s.link.setEnabled r.now on).1 (s.link.setEnabled r.now on).2
    refine ⟨_, _, hsound.directed_setEnabled r.now on, ?_⟩
    rwa [List.nil_append, ← change_eq hl (·.setEnabled r.now on)] at hdone
  · intro host port
    have hdone := (Does.none hl).change rfl (s.link.configure r.now (.of host port)).1
      (s.link.configure r.now (.of host port)).2
    refine ⟨_, _, hsound.directed_configure r.now host port, ?_⟩
    rwa [List.nil_append, ← change_eq hl (·.configure r.now (.of host port))] at hdone

end Moment

/-- The first attempt of a link: an update that builds a transport, connects it and tells the edge. -/
theorem follows_table_first_attempt :
    ∃ (r r' : Rig (Traced (Scripted Int)) Int) (l l' : Link Int) (status : IntervalClock Int),
      Moment 0 r [] ∧ r.link? 0 = some l ∧ l.phase = .connecting ∧
      r.Does 0 l [.build (.of "10.0.0.2" 7000) (.ok 0), .connect 0 (.ok true)] { l' with status } r' ∧
      l'.phase = .connected ∧ l'.transport = some 0 ∧
      r.update 0 id id = (.ok (), r'.tell .log .connected id) := by
  have hmade := Moment.made ({ outside := ⟨{ clock := 0 }, []⟩ } : Rig (Traced (Scripted Int)) Int)
    ⟨⟨3, 1, defaultLineLimit⟩, {}, 5, 0, .start 1 2 30⟩ "10.0.0.2" 7000 .log rfl
  have hready := (hmade.setEnabled true).look
  obtain ⟨hupdate, -, -⟩ := hready.follows_table rfl
  obtain ⟨calls, outcome, l', status, r', hdoes, hrow, hanswer⟩ := hupdate rfl
  have hcalls : (r'.told .log outcome).2.calls =
      [.build (.of "10.0.0.2" 7000) (.ok 0), .connect 0 (.ok true)] :=
    (congrArg (·.2.calls) hanswer).symm
  cases hrow with
  | connected hphase id =>
      have hlisted : r'.calls = [.build (.of "10.0.0.2" 7000) (.ok id), .connect id (.ok true)] :=
        hdoes.calls_eq
      cases hlisted.symm.trans hcalls
      exact ⟨_, r', _, _, status, hready, rfl, rfl, hdoes, rfl, rfl, hanswer⟩
  | unreachable hphase id =>
      have hlisted : r'.calls =
          [.build (.of "10.0.0.2" 7000) (.ok id), .connect id (.ok false), .disconnect id] :=
        hdoes.calls_eq
      cases hlisted.symm.trans hcalls
  | raised hdue fault calls hdialed =>
      have hlisted : r'.calls = calls := hdoes.calls_eq
      cases hdialed <;> cases hlisted.symm.trans hcalls
  | _ => contradiction

end Rig

end PeripheralLink

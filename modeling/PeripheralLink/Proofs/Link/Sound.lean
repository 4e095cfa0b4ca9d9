import Mathlib.Tactic.Common
import PeripheralLink.Link.Basic
/-!
What holds of a link whenever its lock is free, whichever calls have been made and whichever attempts
are in flight.  `Link.Sound` is the invariant; each operation that holds the lock keeps it.

The three visible conditions (disabled exactly without a wish or a valid target, a transport exactly
while connected, attempting exactly while an attempt is in flight) are not inductive by themselves: an
attempt is applied to a link that other calls may have moved meanwhile.  `Attempt.Bound` closes the
gap: the generation of an attempt is never ahead of its link's, and while the two agree the link
stands where it stood when the attempt was claimed.
-/

namespace PeripheralLink

def Target.of (host : String) (port : Int) : Target := ⟨.text host, .int port⟩

theorem Target.same_of_iff (host host' : String) (port port' : Int) :
    (Target.of host port).same (.of host' port') = true ↔
      Target.of host port = .of host' port' := by
  simp only [Target.same, Target.of, Value.same, Value.int?, Bool.and_eq_true, beq_iff_eq,
    Option.some.injEq, Target.mk.injEq, Value.text.injEq, Value.int.injEq]
  constructor
  · rintro ⟨hhost, hport⟩
    exact ⟨hhost, hport.symm⟩
  · rintro ⟨hhost, hport⟩
    exact ⟨hhost, hport.symm⟩

variable {τ : Type}

/-- How an attempt in flight stands to the link that claimed it. -/
structure Attempt.Bound (a : Attempt) (l : Link τ) : Prop where
  origin : a.origin = .connecting ∨ a.origin = .reconnecting
  generation_le : a.generation ≤ l.generation
  unmoved : a.generation = l.generation → l.phase = a.origin ∧ l.target = a.target

/-- The invariant of a link with its attempts in flight. -/
structure Link.Sound (l : Link τ) (inFlight : List Attempt) : Prop where
  target_of : ∃ host port, l.target = .of host port
  disabled_iff : l.phase = .disabled ↔ ¬ (l.enabled = true ∧ l.target.isValid = true)
  owns_iff : l.transport.isSome = true ↔ l.phase = .connected
  ne_connected : l.attempting = true → l.phase ≠ .connected
  length_inFlight : inFlight.length = if l.attempting then 1 else 0
  bound : ∀ a ∈ inFlight, a.Bound l

def Polled.claimed : Polled → List Attempt
  | .attempt a => [a]
  | _ => []

theorem Attempt.Bound.origin_ne_disabled {a : Attempt} {l : Link τ} (h : a.Bound l) :
    a.origin ≠ .disabled := by
  rcases h.origin with horigin | horigin <;> simp [horigin]

namespace Link

variable {l : Link τ} {inFlight : List Attempt}

/-- The invariant reads six fields only. -/
theorem Sound.congr {l' : Link τ} (h : l.Sound inFlight) (htarget : l'.target = l.target)
    (henabled : l'.enabled = l.enabled) (hphase : l'.phase = l.phase)
    (htransport : l'.transport = l.transport) (hattempting : l'.attempting = l.attempting)
    (hgeneration : l'.generation = l.generation) : l'.Sound inFlight where
  target_of := by rw [htarget]; exact h.target_of
  disabled_iff := by rw [hphase, henabled, htarget]; exact h.disabled_iff
  owns_iff := by rw [htransport, hphase]; exact h.owns_iff
  ne_connected := by rw [hattempting, hphase]; exact h.ne_connected
  length_inFlight := by rw [hattempting]; exact h.length_inFlight
  bound := by
    intro a ha
    have hbound := h.bound a ha
    exact ⟨hbound.origin, hgeneration ▸ hbound.generation_le, by
      rw [hgeneration, hphase, htarget]; exact hbound.unmoved⟩

theorem Sound.enabled_of_ne_disabled (h : l.Sound inFlight) (hphase : l.phase ≠ .disabled) :
    l.enabled = true ∧ l.target.isValid = true := by
  by_contra hwish
  exact hphase (h.disabled_iff.mpr hwish)

theorem Sound.transport_eq_none (h : l.Sound inFlight) (hphase : l.phase ≠ .connected) :
    l.transport = none := by
  rw [← Option.not_isSome_iff_eq_none]
  exact fun howns => hphase (h.owns_iff.mp howns)

theorem Sound.nil_of_not_attempting (h : l.Sound inFlight) (hidle : l.attempting = false) :
    inFlight = [] := by
  have hlength := h.length_inFlight
  rw [hidle] at hlength
  exact List.length_eq_zero_iff.mp hlength

theorem Sound.nil_of_connected (h : l.Sound inFlight) (hconnected : l.phase = .connected) :
    inFlight = [] := by
  apply h.nil_of_not_attempting
  by_contra hattempting
  exact h.ne_connected (by simpa using hattempting) hconnected

/-- A new link, which starts disabled and without a wish. -/
theorem Sound.start {host : String} {port : Int} (htarget : l.target = .of host port)
    (henabled : l.enabled = false) (hphase : l.phase = .disabled) (htransport : l.transport = none)
    (hidle : l.attempting = false) : l.Sound [] where
  target_of := ⟨host, port, htarget⟩
  disabled_iff := by simp [henabled, hphase]
  owns_iff := by simp [htransport, hphase]
  ne_connected := by simp [hidle]
  length_inFlight := by simp [hidle]
  bound := by simp

/-- A link that has arrived in a phase without a transport. -/
theorem Sound.arrive (h : l.Sound inFlight) {l' : Link τ}
    (htarget : ∃ host port, l'.target = .of host port)
    (hwish : l'.phase = .disabled ↔ ¬ (l'.enabled = true ∧ l'.target.isValid = true))
    (htransport : l'.transport = none) (hphase : l'.phase ≠ .connected)
    (hattempting : l'.attempting = l.attempting) (hbound : ∀ a ∈ inFlight, a.Bound l') :
    l'.Sound inFlight where
  target_of := htarget
  disabled_iff := hwish
  owns_iff := by simp [htransport, hphase]
  ne_connected := fun _ => hphase
  length_inFlight := by rw [hattempting]; exact h.length_inFlight
  bound := hbound

/-- Attempts stay bound where the generation does not go back and, as long as it is the same, a link
that is not disabled keeps its phase and its target. -/
theorem Sound.bound_of_le (h : l.Sound inFlight) {l' : Link τ} (hle : l.generation ≤ l'.generation)
    (hkept : l'.generation = l.generation → l.phase ≠ .disabled →
      l'.phase = l.phase ∧ l'.target = l.target) :
    ∀ a ∈ inFlight, a.Bound l' := by
  intro a ha
  have hbound := h.bound a ha
  refine ⟨hbound.origin, Nat.le_trans hbound.generation_le hle, ?_⟩
  intro hgeneration
  have hsame : a.generation = l.generation := by
    have := hbound.generation_le
    omega
  obtain ⟨hphase, htarget⟩ := hbound.unmoved hsame
  have hne : l.phase ≠ .disabled := hphase ▸ hbound.origin_ne_disabled
  obtain ⟨hphase', htarget'⟩ := hkept (by omega) hne
  exact ⟨hphase'.trans hphase, htarget'.trans htarget⟩

/-- The link with another target; the generation advances unless the target is the same. -/
def aimed (l : Link τ) (target : Target) : Link τ :=
  { l with
    target
    generation := if target.same l.target then l.generation else l.generation + 1 }

theorem le_generation_aimed (l : Link τ) (target : Target) :
    l.generation ≤ (l.aimed target).generation := by
  simp only [aimed]
  split <;> omega

theorem Sound.eq_of_generation_aimed (h : l.Sound inFlight) {host : String} {port : Int}
    (hsame : (l.aimed (.of host port)).generation = l.generation) :
    Target.of host port = l.target := by
  obtain ⟨host', port', htarget⟩ := h.target_of
  simp only [aimed] at hsame
  rw [htarget] at hsame ⊢
  rw [← Target.same_of_iff]
  by_contra hne
  simp [hne] at hsame

theorem configure_cases (l : Link τ) (now : τ) (target : Target) :
    (target.isValid = true ∧ l.enabled = true ∧ l.phase = .disabled ∧
      (l.configure now target).1 = ((l.aimed target).enter now .disconnected).1) ∨
    (target.isValid = true ∧ ¬ (l.enabled = true ∧ l.phase = .disabled) ∧
      (l.configure now target).1 = l.aimed target) ∨
    (¬ target.isValid = true ∧ l.phase = .disabled ∧ (l.configure now target).1 = l.aimed target) ∨
    (¬ target.isValid = true ∧ l.phase ≠ .disabled ∧
      (l.configure now target).1 = ((l.aimed target).leave now .disabled).1) := by
  by_cases hvalid : target.isValid = true
  · by_cases hwait : l.enabled = true ∧ l.phase = .disabled
    · exact .inl ⟨hvalid, hwait.1, hwait.2, by rw [configure, if_pos hvalid, if_pos hwait]; rfl⟩
    · exact .inr (.inl ⟨hvalid, hwait, by rw [configure, if_pos hvalid, if_neg hwait]; rfl⟩)
  · by_cases hphase : l.phase = .disabled
    · exact .inr (.inr (.inl ⟨hvalid, hphase,
        by rw [configure, if_neg hvalid, if_pos hphase]; rfl⟩))
    · exact .inr (.inr (.inr ⟨hvalid, hphase,
        by rw [configure, if_neg hvalid, if_neg hphase]; rfl⟩))

theorem generation_configure (l : Link τ) (now : τ) (target : Target) :
    (l.configure now target).1.generation = (l.aimed target).generation := by
  rcases configure_cases l now target with
    ⟨_, _, _, heq⟩ | ⟨_, _, heq⟩ | ⟨_, _, heq⟩ | ⟨_, _, heq⟩ <;> rw [heq] <;> rfl

theorem counters_configure (l : Link τ) (now : τ) (target : Target) :
    (l.configure now target).1.counters = l.counters := by
  rcases configure_cases l now target with
    ⟨_, _, _, heq⟩ | ⟨_, _, heq⟩ | ⟨_, _, heq⟩ | ⟨_, _, heq⟩ <;> rw [heq] <;> rfl

theorem Sound.configure (h : l.Sound inFlight) (now : τ) (host : String) (port : Int) :
    (l.configure now (.of host port)).1.Sound inFlight := by
  have hle := le_generation_aimed l (.of host port)
  rcases configure_cases l now (.of host port) with
    ⟨hvalid, henabled, hphase, heq⟩ | ⟨hvalid, hwait, heq⟩ | ⟨hvalid, hphase, heq⟩ |
      ⟨hvalid, hphase, heq⟩
  · rw [heq]
    have htransport : l.transport = none := h.transport_eq_none (by simp [hphase])
    refine h.arrive ⟨host, port, rfl⟩ ?_ htransport nofun rfl (h.bound_of_le hle ?_)
    · simp [enter, aimed, hvalid, henabled]
    · intro _ hne
      exact absurd hphase hne
  · rw [heq]
    refine ⟨⟨host, port, rfl⟩, ?_, h.owns_iff, h.ne_connected, h.length_inFlight,
      h.bound_of_le hle ?_⟩
    · constructor
      · intro hphase henabled
        exact hwait ⟨henabled.1, hphase⟩
      · intro hwish
        exact h.disabled_iff.mpr fun hold => hwish ⟨hold.1, hvalid⟩
    · intro hsame _
      exact ⟨rfl, h.eq_of_generation_aimed hsame⟩
  · rw [heq]
    refine ⟨⟨host, port, rfl⟩, ?_, h.owns_iff, h.ne_connected, h.length_inFlight,
      h.bound_of_le hle ?_⟩
    · simp [aimed, hphase, hvalid]
    · intro _ hne
      exact absurd hphase hne
  · rw [heq]
    refine h.arrive ⟨host, port, rfl⟩ ?_ rfl nofun rfl (h.bound_of_le hle ?_)
    · simp [leave, giveUp, enter, aimed, hvalid]
    · intro hsame hne
      have htarget := h.eq_of_generation_aimed hsame
      exact absurd (htarget ▸ (h.enabled_of_ne_disabled hne).2) hvalid

/-- Setting the target that a running link has changes nothing. -/
theorem Sound.configure_self (h : l.Sound inFlight) (hphase : l.phase ≠ .disabled) {host : String}
    {port : Int} (htarget : l.target = .of host port) (now : τ) :
    (l.configure now (.of host port)).1 = l := by
  have hvalid := (h.enabled_of_ne_disabled hphase).2
  have hsame := (Target.same_of_iff host host port port).mpr rfl
  rw [htarget] at hvalid
  rcases configure_cases l now (.of host port) with
    ⟨_, _, hoff, _⟩ | ⟨_, _, heq⟩ | ⟨hinvalid, _⟩ | ⟨hinvalid, _⟩
  · exact absurd hoff hphase
  · rw [heq, aimed, htarget, if_pos hsame, ← htarget]
  · exact absurd hvalid hinvalid
  · exact absurd hvalid hinvalid

theorem generation_setEnabled (l : Link τ) (now : τ) (on : Bool) :
    (l.setEnabled now on).1.generation =
      if on = false ∧ l.phase ≠ .disabled then l.generation + 1 else l.generation := by
  unfold setEnabled
  cases on with
  | true =>
      simp only [↓reduceIte, Bool.true_eq_false, false_and]
      split
      · split <;> rfl
      · rfl
  | false =>
      by_cases hphase : l.phase = .disabled
      · simp [hphase]
      · simp [hphase, leave, giveUp, enter]

theorem counters_setEnabled (l : Link τ) (now : τ) (on : Bool) :
    (l.setEnabled now on).1.counters = l.counters := by
  unfold setEnabled
  split
  · split
    · split <;> rfl
    · rfl
  · split <;> rfl

/-- Turning a running link on changes nothing. -/
theorem Sound.setEnabled_true (h : l.Sound inFlight) (hphase : l.phase ≠ .disabled) (now : τ) :
    (l.setEnabled now true).1 = l := by
  have henabled := (h.enabled_of_ne_disabled hphase).1
  simp [Link.setEnabled, hphase, ← henabled]

theorem Sound.setEnabled (h : l.Sound inFlight) (now : τ) (on : Bool) :
    (l.setEnabled now on).1.Sound inFlight := by
  by_cases hphase : l.phase = .disabled
  · by_cases hgo : on = true ∧ l.target.isValid = true
    · simp only [Link.setEnabled, hgo, hphase, ↓reduceIte]
      have htransport : l.transport = none := h.transport_eq_none (by simp [hphase])
      refine h.arrive h.target_of ?_ htransport nofun rfl (h.bound_of_le (Nat.le_refl _) ?_)
      · simp [enter, hgo.2]
      · intro _ hne
        exact absurd hphase hne
    · have hchanged : (l.setEnabled now on).1 = { l with enabled := on } := by
        cases on with
        | false => simp [Link.setEnabled, hphase]
        | true =>
            have hvalid : ¬ l.target.isValid = true := fun hvalid => hgo ⟨rfl, hvalid⟩
            simp [Link.setEnabled, hphase, hvalid]
      rw [hchanged]
      refine ⟨h.target_of, ?_, h.owns_iff, h.ne_connected, h.length_inFlight,
        h.bound_of_le (Nat.le_refl _) ?_⟩
      · simpa [hphase] using hgo
      · intro _ _
        exact ⟨rfl, rfl⟩
  · cases on with
    | true =>
        rw [h.setEnabled_true hphase]
        exact h
    | false =>
        simp only [Link.setEnabled, hphase, ↓reduceIte, Bool.false_eq_true]
        refine h.arrive h.target_of ?_ rfl nofun rfl (h.bound_of_le (Nat.le_succ _) ?_)
        · simp [leave, giveUp, enter]
        · intro hsame
          exact absurd hsame (Nat.succ_ne_self _)

theorem Sound.shutDown (h : l.Sound inFlight) (now : τ) : (l.shutDown now).1.Sound inFlight :=
  h.setEnabled now false

theorem Sound.claim (h : l.Sound inFlight) (hidle : l.attempting = false)
    (hphase : l.phase = .connecting ∨ l.phase = .reconnecting) :
    l.claim.1.Sound (l.claim.2.2.claimed ++ inFlight) := by
  rw [h.nil_of_not_attempting hidle]
  refine ⟨h.target_of, h.disabled_iff, ?_, ?_, rfl, ?_⟩
  · rcases hphase with hphase | hphase <;> simp [Link.claim, giveUp, hphase]
  · rcases hphase with hphase | hphase <;> simp [Link.claim, giveUp, hphase]
  · intro a ha
    rw [List.append_nil] at ha
    obtain rfl := List.mem_singleton.mp ha
    exact ⟨hphase, Nat.le_refl _, fun _ => ⟨rfl, rfl⟩⟩

section
variable [Sub τ] [LE τ] [DecidableLE τ]

/-- What a poll that is not held up can do.  The two ways that `advance` provides for a link whose
phase disagrees with its wish do not occur. -/
theorem Sound.advance_cases (h : l.Sound inFlight) (now : τ) (alive : Bool) :
    (l.advance now alive = (l, [], .quiet) ∧
      (l.phase = .disabled ∨ l.phase = .connected ∧ l.health.isDue now = false ∨
        l.phase = .reconnecting ∧ ¬ l.backoff.delay ≤ now - l.enteredAt)) ∨
    (l.phase = .disconnected ∧
      l.advance now alive =
        ((l.enter now .connecting).1, (l.enter now .connecting).2, .quiet)) ∨
    ((l.phase = .connecting ∨ l.phase = .reconnecting ∧ l.backoff.delay ≤ now - l.enteredAt) ∧
      l.advance now alive = l.claim) ∨
    (l.phase = .connected ∧ l.health.isDue now = true ∧ alive = true ∧
      l.advance now alive = ({ l with health := l.health.mark now }, [], .quiet)) ∨
    (l.phase = .connected ∧ l.health.isDue now = true ∧ alive = false ∧
      l.advance now alive =
        (({ l with health := l.health.mark now }.leave now .reconnecting).1,
          .report .connectionLost ::
            ({ l with health := l.health.mark now }.leave now .reconnecting).2,
          .edge .disconnected)) := by
  cases hphase : l.phase with
  | disabled =>
      have hwish := h.disabled_iff.mp hphase
      left
      simp only [advance, hphase, Bool.and_eq_true, hwish, ↓reduceIte, true_or, and_self]
  | disconnected =>
      have henabled := (h.enabled_of_ne_disabled (by simp [hphase])).1
      right; left
      simp [advance, hphase, henabled]
  | connecting =>
      have henabled := (h.enabled_of_ne_disabled (by simp [hphase])).1
      right; right; left
      simp [advance, hphase, henabled]
  | connected =>
      have henabled := (h.enabled_of_ne_disabled (by simp [hphase])).1
      have howns := h.owns_iff.mpr hphase
      cases hdue : l.health.isDue now with
      | false =>
          left
          simp [advance, hphase, henabled, hdue]
      | true =>
          cases alive with
          | true =>
              right; right; right; left
              simp [advance, hphase, henabled, hdue, howns]
          | false =>
              right; right; right; right
              simp [advance, hphase, henabled, hdue]
  | reconnecting =>
      have henabled := (h.enabled_of_ne_disabled (by simp [hphase])).1
      by_cases hdelay : l.backoff.delay ≤ now - l.enteredAt
      · right; right; left
        simp [advance, hphase, henabled, hdelay]
      · left
        simp [advance, hphase, henabled, hdelay]

theorem Sound.advance (h : l.Sound inFlight) (hidle : l.attempting = false) (now : τ) (alive : Bool) :
    (l.advance now alive).1.Sound ((l.advance now alive).2.2.claimed ++ inFlight) := by
  have hbound {l' : Link τ} (hgeneration : l'.generation = l.generation) :
      ∀ a ∈ inFlight, a.Bound l' := by
    simp [h.nil_of_not_attempting hidle]
  rcases h.advance_cases now alive with
    ⟨heq, _⟩ | ⟨hphase, heq⟩ | ⟨hphase, heq⟩ | ⟨_, _, _, heq⟩ | ⟨hphase, _, _, heq⟩
  · rw [heq]
    exact h
  · rw [heq]
    have hwish := h.enabled_of_ne_disabled (by simp [hphase])
    have htransport : l.transport = none := h.transport_eq_none (by simp [hphase])
    refine h.arrive h.target_of ?_ htransport nofun rfl (hbound rfl)
    simpa [enter] using hwish
  · rw [heq]
    exact h.claim hidle (hphase.imp_right And.left)
  · rw [heq]
    exact h.congr rfl rfl rfl rfl rfl rfl
  · rw [heq]
    have hwish := h.enabled_of_ne_disabled (by simp [hphase])
    refine h.arrive h.target_of ?_ rfl nofun rfl (hbound rfl)
    simpa [leave, giveUp, enter] using hwish

variable [Zero τ] [LT τ] [DecidableLT τ]

theorem poll_of_attempting (hattempting : l.attempting = true) (now : τ) (alive : Bool) :
    l.poll now alive = (l, [], .quiet) := by
  simp [Link.poll, hattempting]

theorem reportStatus_cases (l : Link τ) (now : τ) :
    (l.reportStatus now).1 = l ∨ (l.reportStatus now).1 = { l with status := l.status.mark now } := by
  unfold reportStatus
  split
  · exact .inl rfl
  · exact .inr rfl

theorem Sound.reportStatus (h : l.Sound inFlight) (now : τ) :
    (l.reportStatus now).1.Sound inFlight := by
  rcases reportStatus_cases l now with heq | heq
  · rw [heq]
    exact h
  · rw [heq]
    exact h.congr rfl rfl rfl rfl rfl rfl

theorem Sound.poll (h : l.Sound inFlight) (now : τ) (alive : Bool) :
    (l.poll now alive).1.Sound ((l.poll now alive).2.2.claimed ++ inFlight) := by
  cases hidle : l.attempting with
  | true =>
      rw [poll_of_attempting hidle]
      exact h
  | false =>
      simp only [Link.poll, hidle, Bool.false_eq_true, ↓reduceIte]
      exact (h.advance hidle now alive).reportStatus now

/-- A poll that claims an attempt leaves the link where it stands. -/
theorem Sound.poll_attempt (h : l.Sound inFlight) {a : Attempt} {now : τ} {alive : Bool}
    (hclaim : (l.poll now alive).2.2 = .attempt a) :
    l.attempting = false ∧ a = ⟨l.generation, l.phase, l.target⟩ ∧
      (l.poll now alive).1 = (l.claim.1.reportStatus now).1 := by
  cases hidle : l.attempting with
  | true => simp [poll_of_attempting hidle] at hclaim
  | false =>
      simp only [Link.poll, hidle, Bool.false_eq_true, ↓reduceIte] at hclaim ⊢
      rcases h.advance_cases now alive with
        ⟨heq, _⟩ | ⟨_, heq⟩ | ⟨_, heq⟩ | ⟨_, _, _, heq⟩ | ⟨_, _, _, heq⟩
      · simp [heq] at hclaim
      · simp [heq] at hclaim
      · rw [heq] at hclaim ⊢
        simp only [Link.claim, giveUp, Polled.attempt.injEq] at hclaim
        exact ⟨trivial, hclaim.symm, rfl⟩
      · simp [heq] at hclaim
      · simp [heq] at hclaim

end

/-- Only one attempt can be in flight. -/
theorem Sound.eq_single {before after : List Attempt} {a : Attempt}
    (h : l.Sound (before ++ a :: after)) :
    before = [] ∧ after = [] ∧ l.attempting = true := by
  have hlength := h.length_inFlight
  simp only [List.length_append, List.length_cons] at hlength
  cases hattempting : l.attempting with
  | false =>
      simp [hattempting] at hlength
  | true =>
      simp only [hattempting, ↓reduceIte] at hlength
      exact ⟨List.length_eq_zero_iff.mp (by omega), List.length_eq_zero_iff.mp (by omega), rfl⟩

theorem Sound.attempting_of_single {a : Attempt} (h : l.Sound [a]) : l.attempting = true := by
  have hsingle : l.Sound ([] ++ a :: []) := h
  exact hsingle.eq_single.2.2

theorem Sound.abort {before after : List Attempt} {a : Attempt}
    (h : l.Sound (before ++ a :: after)) : l.abort.Sound (before ++ after) := by
  obtain ⟨rfl, rfl, _⟩ := h.eq_single
  exact ⟨h.target_of, h.disabled_iff, h.owns_iff, by simp [Link.abort], rfl, by simp⟩

section
variable [Mul τ] [LT τ] [DecidableLT τ]

/-- An outdated attempt comes to nothing: its transport is released, and no edge is told. -/
theorem settle_of_ne {a : Attempt} (hstale : a.generation ≠ l.generation) (now : τ) (id : Nat)
    (up : Bool) :
    l.settle now a id up =
      ({ l with attempting := false }, [.release id, .report (.stale a.target)], none) := by
  simp [settle, hstale]

/-- The link after an attempt from a phase that has brought it a transport. -/
def risen (l : Link τ) (now : τ) (origin : Phase) (id : Nat) : Link τ :=
  { l with
    attempting := false
    phase := .connected
    enteredAt := now
    transport := some id
    backoff := l.backoff.reset
    health := l.health.mark now
    failures := 0
    counters := if origin = .reconnecting
      then { l.counters with reconnects := l.counters.reconnects + 1 } else l.counters }

/-- The link after an attempt from a phase that has failed. -/
def fallen (l : Link τ) (now : τ) (origin : Phase) : Link τ :=
  { l with
    attempting := false
    phase := .reconnecting
    enteredAt := now
    backoff := if origin = .reconnecting then l.backoff.advance else l.backoff
    failures := l.failures + 1 }

/-- An attempt that still counts and connected. -/
theorem settle_up {a : Attempt} (hcurrent : a.generation = l.generation) (now : τ) (id : Nat) :
    ∃ reports : List (LinkNotice τ), l.settle now a id true =
      (l.risen now a.origin id, reports.map .report,
        some (if a.origin = .reconnecting then .reconnected else .connected)) := by
  refine ⟨[if l.phase = .connected then .reentered .connected l.backoff.initial
    else .moved l.phase .connected], ?_⟩
  by_cases horigin : a.origin = .reconnecting <;>
    simp [settle, risen, hcurrent, horigin, enter, Backoff.reset]

/-- An attempt that still counts and did not connect. -/
theorem settle_down {a : Attempt} (hcurrent : a.generation = l.generation) (now : τ) (id : Nat) :
    ∃ reports : List (LinkNotice τ), l.settle now a id false =
      (l.fallen now a.origin, .release id :: reports.map .report, none) := by
  let failed : LinkNotice τ := if l.failures = 0 then .unreachable a.target
    else .attemptFailed (l.failures + 1) a.target
  let entered (delay : τ) : LinkNotice τ := if l.phase = .reconnecting
    then .reentered .reconnecting delay else .moved l.phase .reconnecting
  by_cases horigin : a.origin = .reconnecting
  · refine ⟨[failed, .retryIn l.backoff.advance.delay, entered l.backoff.advance.delay], ?_⟩
    simp [settle, fallen, hcurrent, horigin, enter, failed, entered]
  · refine ⟨[failed, entered l.backoff.delay], ?_⟩
    simp [settle, fallen, hcurrent, horigin, enter, failed, entered]

theorem Sound.settle {before after : List Attempt} {a : Attempt}
    (h : l.Sound (before ++ a :: after)) (now : τ) (id : Nat) (up : Bool) :
    (l.settle now a id up).1.Sound (before ++ after) := by
  obtain ⟨rfl, rfl, _⟩ := h.eq_single
  have hbound := h.bound a (by simp)
  by_cases hcurrent : a.generation = l.generation
  · have horigin := (hbound.unmoved hcurrent).1
    have hwish := h.enabled_of_ne_disabled (horigin ▸ hbound.origin_ne_disabled)
    cases up with
    | true =>
        obtain ⟨reports, heq⟩ := settle_up hcurrent now id
        rw [heq]
        exact ⟨h.target_of, by simpa [risen] using hwish, by simp [risen], by simp [risen], rfl,
          by simp⟩
    | false =>
        obtain ⟨reports, heq⟩ := settle_down hcurrent now id
        have hphase : l.phase ≠ .connected := by
          rw [horigin]
          rcases hbound.origin with hconnecting | hreconnecting <;> simp [*]
        rw [heq]
        exact ⟨h.target_of, by simpa [fallen] using hwish,
          by simp [fallen, h.transport_eq_none hphase], by simp [fallen], rfl, by simp⟩
  · rw [settle_of_ne hcurrent]
    exact ⟨h.target_of, h.disabled_iff, h.owns_iff, by simp, rfl, by simp⟩

end

theorem Sound.sent (h : l.Sound inFlight) (m : Message) (delivered : Bool) :
    (l.sent m delivered).1.Sound inFlight := by
  cases delivered <;> exact h.congr rfl rfl rfl rfl rfl rfl

theorem Sound.accept (h : l.Sound inFlight) (line : Option (List UInt8)) :
    (l.accept line).2.1.Sound inFlight := by
  unfold Link.accept
  split
  · exact h.congr rfl rfl rfl rfl rfl rfl
  · split <;> exact h.congr rfl rfl rfl rfl rfl rfl

end Link

end PeripheralLink

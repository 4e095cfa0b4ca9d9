import PeripheralLink.Proofs.Rig.Table
/-!
Where the transports go.  A course is a run of one link in which building and connecting do not break
down, with any calls between its steps; it carries the attempts in flight and how far each has come.  The
calls made on the outside say which transports stand: built and not disconnected since.  `Ledger` ties
them to the link and to the attempts in flight, and `Course.built_counted_disconnected_or_held` draws the consequences.
-/

namespace PeripheralLink

def Call.isBuild : Call → Bool
  | build _ _ => true
  | _ => false

/-- A transport was used: neither built nor disconnected. -/
def Call.isUse : Call → Bool
  | build _ _ => false
  | disconnect _ => false
  | _ => true

def Call.disconnects (id : Nat) : Call → Bool
  | disconnect other => other == id
  | _ => false

/-- The transports that have been built and not been disconnected since. -/
def standing : List Call → List Nat
  | [] => []
  | .build _ (.ok id) :: later =>
    if later.any (Call.disconnects id) then standing later else id :: standing later
  | _ :: later => standing later

section Standing

variable {calls new : List Call}

theorem standing_append_of_not_build (calls : List Call) (hnew : ∀ c ∈ new, c.isBuild = false) :
    standing (calls ++ new) = (standing calls).filter fun id => !new.any (Call.disconnects id) := by
  induction calls with
  | nil =>
      induction new with
      | nil => rfl
      | cons c new ih =>
          have hrest := ih fun d hd => hnew d (List.mem_cons_of_mem c hd)
          have hc := hnew c List.mem_cons_self
          cases c with
          | build target result => cases hc
          | _ => exact hrest
  | cons c calls ih =>
      cases c with
      | build target result =>
          cases result with
          | error fault => exact ih
          | ok id =>
              simp only [List.cons_append, standing, List.any_append, ih]
              cases hearly : calls.any (Call.disconnects id) <;>
                cases hlate : new.any (Call.disconnects id) <;> simp [hlate]
      | _ => exact ih

theorem standing_append_build (calls : List Call) (target : Target) (id : Nat) :
    standing (calls ++ [.build target (.ok id)]) = standing calls ++ [id] := by
  induction calls with
  | nil => rfl
  | cons c calls ih =>
      cases c with
      | build target result =>
          cases result with
          | error fault => exact ih
          | ok other =>
              simp only [List.cons_append, standing, List.any_append, ih]
              cases hearly : calls.any (Call.disconnects other) <;> simp [Call.disconnects]
      | _ => exact ih

theorem isBuild_of_isUse {c : Call} (h : c.isUse = true) : c.isBuild = false := by
  cases c with
  | build target result => cases h
  | _ => rfl

theorem any_disconnects_uses (huses : ∀ c ∈ new, c.isUse = true) (id : Nat) :
    new.any (Call.disconnects id) = false := by
  rw [List.any_eq_false]
  intro c hc
  have huse := huses c hc
  cases c with
  | build target result => cases huse
  | disconnect other => cases huse
  | _ => simp [Call.disconnects]

/-- Use leaves standing what stands. -/
theorem standing_append_uses (calls : List Call) (huses : ∀ c ∈ new, c.isUse = true) :
    standing (calls ++ new) = standing calls := by
  rw [standing_append_of_not_build calls fun c hc => isBuild_of_isUse (huses c hc)]
  apply List.filter_eq_self.mpr
  intro id _
  rw [any_disconnects_uses huses]
  rfl

/-- A transport that was built and does not stand has been disconnected. -/
theorem disconnected_or_standing {before after : List Call} {target : Target} {id : Nat}
    (hcalls : calls = before ++ .build target (.ok id) :: after) :
    .disconnect id ∈ after ∨ id ∈ standing calls := by
  cases hany : after.any (Call.disconnects id) with
  | true =>
      left
      obtain ⟨c, hc, hdisconnects⟩ := List.any_eq_true.mp hany
      cases c with
      | disconnect other =>
          obtain rfl : other = id := by simpa [Call.disconnects] using hdisconnects
          exact hc
      | _ => cases hdisconnects
  | false =>
      right
      subst hcalls
      induction before with
      | nil => simp [standing, hany]
      | cons c before ih =>
          cases c with
          | build target' result =>
              cases result with
              | error fault => exact ih
              | ok other =>
                  simp only [List.cons_append, standing]
                  split
                  · exact ih
                  · exact List.mem_cons_of_mem other ih
          | _ => exact ih

end Standing

namespace Link

variable {τ : Type} {l l' : Link τ} {inFlight : List Attempt} {calls : List Call}

/-- An operation leaves a link its transport or disconnects it, after some use of it. -/
inductive Custody (l : Link τ) (left : Option Nat) : List Call → Prop
  | keep (uses : List Call) (huses : ∀ c ∈ uses, c.isUse = true) (hleft : left = l.transport) :
      Custody l left uses
  | release (uses : List Call) (huses : ∀ c ∈ uses, c.isUse = true) (hleft : left = none) :
      Custody l left (uses ++ l.transport.toList.map .disconnect)

theorem Custody.same {left : Option Nat} (hleft : left = l.transport) : Custody l left [] :=
  .keep [] (by simp) hleft

theorem Directed.custody {now : τ} {wish : Bool} {target : Target}
    (h : l.Directed now wish target calls l') : Custody l l'.transport calls := by
  cases h with
  | off => exact .release [] (by simp) rfl
  | on => exact .same rfl
  | stay => exact .same rfl

/-- Without a wish or a valid target the link is left disabled, and its transport disconnected. -/
theorem Directed.parked {now : τ} {wish : Bool} {target : Target} (hsound : l.Sound inFlight)
    (h : l.Directed now wish target calls l') (hwish : ¬ (wish = true ∧ target.isValid = true)) :
    calls = l.transport.toList.map .disconnect ∧ l'.phase = .disabled ∧ l'.transport = none := by
  cases h with
  | off => exact ⟨rfl, rfl, rfl⟩
  | on _ hgo => exact absurd hgo hwish
  | stay hstay =>
      have hphase := hstay.mpr hwish
      have htransport := hsound.transport_eq_none (by simp [hphase])
      exact ⟨by simp [htransport], hphase, htransport⟩

theorem calls_shutDown (l : Link τ) (now : τ) :
    (l.shutDown now).2.flatMap LinkAction.calls =
      (l.setEnabled now false).2.flatMap LinkAction.calls := by
  simp [shutDown, LinkAction.calls]

/-- Reading what was received touches neither the outside nor the transport. -/
theorem accept_custody (l : Link τ) (line : Option (List UInt8)) :
    (l.accept line).2.2.flatMap LinkAction.calls = [] ∧
      (l.accept line).2.1.transport = l.transport ∧
      (l.accept line).2.1.counters.attempts = l.counters.attempts := by
  unfold accept
  split
  · exact ⟨rfl, rfl, rfl⟩
  · split <;> exact ⟨rfl, rfl, rfl⟩

section

variable [Sub τ] [LE τ] [DecidableLE τ]

/-- A step of the phase counts an attempt exactly when it claims one. -/
theorem Sound.custody_advance (h : l.Sound inFlight) (now : τ) (alive : Bool) :
    Custody l (l.advance now alive).1.transport ((l.probe? now).toList.map (.probe · alive) ++
        (l.advance now alive).2.1.flatMap LinkAction.calls) ∧
      (l.advance now alive).1.counters.attempts =
        l.counters.attempts + (l.advance now alive).2.2.claimed.length := by
  have huses : ∀ c ∈ (l.probe? now).toList.map (Call.probe · alive), c.isUse = true := by
    intro c hc
    obtain ⟨id, _, rfl⟩ := List.mem_map.mp hc
    rfl
  have hkeep : Custody l l.transport ((l.probe? now).toList.map (Call.probe · alive) ++ []) := by
    rw [List.append_nil]
    exact .keep _ huses rfl
  rcases h.advance_cases now alive with
    ⟨heq, _⟩ | ⟨_, heq⟩ | ⟨_, heq⟩ | ⟨_, _, _, heq⟩ | ⟨_, _, _, heq⟩
  · rw [heq]
    exact ⟨hkeep, rfl⟩
  · rw [heq]
    exact ⟨hkeep, rfl⟩
  · have hcalls : l.claim.2.1.flatMap LinkAction.calls = l.transport.toList.map .disconnect := by
      cases htransport : l.transport <;> simp [Link.claim, giveUp, htransport, LinkAction.calls]
    rw [heq, hcalls]
    exact ⟨.release _ huses rfl, rfl⟩
  · rw [heq]
    exact ⟨hkeep, rfl⟩
  · rw [heq, List.flatMap_cons, calls_leave]
    exact ⟨.release _ huses rfl, rfl⟩

end

end Link

inductive Stage
  | claimed
  | built (transport : Nat)
  | connected (transport : Nat) (up : Bool)

structure Flight where
  attempt : Attempt
  stage : Stage

def Flight.isClaimed (f : Flight) : Bool :=
  match f.stage with
  | .claimed => true
  | _ => false

def Flight.transport? (f : Flight) : Option Nat :=
  match f.stage with
  | .claimed => none
  | .built id => some id
  | .connected id _ => some id

/-- The calls made so far, the link and the attempts in flight agree: the transports that stand are the
one of the link and those of the attempts, every transport was built for an attempt that was counted, and
never more than one has stood. -/
structure Ledger {τ : Type} (l : Link τ) (calls : List Call) (flights : List Flight) : Prop where
  standing_eq : standing calls = l.transport.toList ++ flights.filterMap Flight.transport?
  attempts : (calls.filter Call.isBuild).length + (flights.filter Flight.isClaimed).length =
    l.counters.attempts
  atMostOne : ∀ past, past <+: calls → (standing past).length ≤ 1

namespace Ledger

variable {τ : Type} {l l' : Link τ} {calls new : List Call} {flights : List Flight}

theorem congr (h : Ledger l calls flights) (htransport : l'.transport = l.transport)
    (hattempts : l'.counters.attempts = l.counters.attempts) : Ledger l' calls flights where
  standing_eq := by rw [htransport, h.standing_eq]
  attempts := by rw [hattempts, h.attempts]
  atMostOne := h.atMostOne

theorem filter_isBuild_append (calls : List Call) (hnew : ∀ c ∈ new, c.isBuild = false) :
    (calls ++ new).filter Call.isBuild = calls.filter Call.isBuild := by
  have hnone : new.filter Call.isBuild = [] := by simpa using hnew
  rw [List.filter_append, hnone, List.append_nil]

/-- As long as nothing is built, no more transports stand than before. -/
theorem atMostOne_append (h : ∀ past, past <+: calls → (standing past).length ≤ 1)
    (hnew : ∀ c ∈ new, c.isBuild = false) :
    ∀ past, past <+: calls ++ new → (standing past).length ≤ 1 := by
  intro past hpast
  rcases List.prefix_or_prefix_of_prefix hpast (List.prefix_append calls new) with hold | ⟨more, rfl⟩
  · exact h past hold
  · have hmore := (List.prefix_append_right_inj calls).mp hpast
    have hquiet : ∀ c ∈ more, c.isBuild = false := fun c hc => hnew c (hmore.subset hc)
    rw [standing_append_of_not_build calls hquiet]
    exact Nat.le_trans (List.length_filter_le _ _) (h calls (List.prefix_refl calls))

/-- While the link owns a transport no attempt is in flight. -/
theorem flights_eq_nil (hsound : l.Sound (flights.map Flight.attempt))
    (howns : l.transport.isSome = true) : flights = [] :=
  List.map_eq_nil_iff.mp (hsound.nil_of_connected (hsound.owns_iff.mp howns))

/-- An attempt in flight is the only one, and the link owns no transport. -/
theorem flights_eq_single {before after : List Flight} {f : Flight}
    (hsound : l.Sound ((before ++ f :: after).map Flight.attempt)) :
    before = [] ∧ after = [] ∧ l.transport = none := by
  rw [List.map_append, List.map_cons] at hsound
  obtain ⟨hbefore, hafter, hattempting⟩ := hsound.eq_single
  exact ⟨List.map_eq_nil_iff.mp hbefore, List.map_eq_nil_iff.mp hafter,
    hsound.transport_eq_none (hsound.ne_connected hattempting)⟩

/-- An operation that keeps the transport or disconnects it, and may claim attempts. -/
theorem custody (h : Ledger l calls flights) (hsound : l.Sound (flights.map Flight.attempt))
    (hcustody : l.Custody l'.transport new) (claimed : List Attempt)
    (hattempts : l'.counters.attempts = l.counters.attempts + claimed.length) :
    Ledger l' (calls ++ new) (claimed.map (⟨·, .claimed⟩) ++ flights) := by
  have hquiet : ∀ c ∈ new, c.isBuild = false := by
    intro c hc
    cases hcustody with
    | keep uses huses => exact isBuild_of_isUse (huses c hc)
    | release uses huses =>
        rcases List.mem_append.mp hc with hc | hc
        · exact isBuild_of_isUse (huses c hc)
        · obtain ⟨id, _, rfl⟩ := List.mem_map.mp hc
          rfl
  have hnone : (claimed.map (Flight.mk · .claimed)).filterMap Flight.transport? = [] := by
    simp [Flight.transport?]
  have hall : (claimed.map (Flight.mk · .claimed)).filter Flight.isClaimed =
      claimed.map (Flight.mk · .claimed) := by
    simp [Flight.isClaimed]
  refine ⟨?_, ?_, atMostOne_append h.atMostOne hquiet⟩
  · rw [List.filterMap_append, hnone, List.nil_append]
    cases hcustody with
    | keep uses huses htransport => rw [standing_append_uses calls huses, h.standing_eq, htransport]
    | release uses huses htransport =>
        rw [← List.append_assoc, standing_append_of_not_build _ (by simp [Call.isBuild]),
          standing_append_uses calls huses, h.standing_eq, htransport]
        cases howned : l.transport with
        | none => simp
        | some id =>
            obtain rfl := flights_eq_nil hsound (by simp [howned])
            simp [Call.disconnects]
  · have hcounted := h.attempts
    rw [filter_isBuild_append calls hquiet, List.filter_append, hall, List.length_append,
      List.length_map]
    omega

/-- A transport is built for an attempt. -/
theorem build {before after : List Flight} {a : Attempt}
    (h : Ledger l calls (before ++ ⟨a, .claimed⟩ :: after))
    (hsound : l.Sound ((before ++ ⟨a, .claimed⟩ :: after).map Flight.attempt)) (target : Target)
    (id : Nat) :
    Ledger l (calls ++ [.build target (.ok id)]) (before ++ ⟨a, .built id⟩ :: after) := by
  obtain ⟨rfl, rfl, htransport⟩ := flights_eq_single hsound
  have hstanding : standing (calls ++ [.build target (.ok id)]) = [id] := by
    rw [standing_append_build, h.standing_eq]
    simp [htransport, Flight.transport?]
  refine ⟨?_, ?_, ?_⟩
  · rw [hstanding]
    simp [htransport, Flight.transport?]
  · have hcounted := h.attempts
    simp only [List.filter_append, List.length_append] at hcounted ⊢
    exact hcounted
  · intro past hpast
    rcases List.prefix_concat_iff.mp hpast with rfl | hold
    · rw [hstanding]
      exact Nat.le_refl 1
    · exact h.atMostOne past hold

/-- A transport connects or does not. -/
theorem connect {before after : List Flight} {a : Attempt} {id : Nat}
    (h : Ledger l calls (before ++ ⟨a, .built id⟩ :: after)) (up : Bool) :
    Ledger l (calls ++ [.connect id (.ok up)]) (before ++ ⟨a, .connected id up⟩ :: after) := by
  have huse : ∀ c ∈ [Call.connect id (.ok up)], c.isUse = true := by simp [Call.isUse]
  have hquiet : ∀ c ∈ [Call.connect id (.ok up)], c.isBuild = false := by simp [Call.isBuild]
  refine ⟨?_, ?_, atMostOne_append h.atMostOne hquiet⟩
  · rw [standing_append_uses calls huse, h.standing_eq]
    simp [Flight.transport?]
  · rw [filter_isBuild_append calls hquiet, ← h.attempts]
    simp [Flight.isClaimed]

/-- The outcome of an attempt is applied: its transport becomes that of the link, or is disconnected. -/
theorem settle [Mul τ] [LT τ] [DecidableLT τ] {before after : List Flight} {a : Attempt} {id : Nat}
    {up : Bool} (h : Ledger l calls (before ++ ⟨a, .connected id up⟩ :: after))
    (hsound : l.Sound ((before ++ ⟨a, .connected id up⟩ :: after).map Flight.attempt)) (now : τ) :
    Ledger (l.settle now a id up).1
      (calls ++ (l.settle now a id up).2.1.flatMap LinkAction.calls) (before ++ after) := by
  obtain ⟨rfl, rfl, htransport⟩ := flights_eq_single hsound
  have hheld : standing calls = [id] := by
    rw [h.standing_eq]
    simp [htransport, Flight.transport?]
  have hcounted : (calls.filter Call.isBuild).length = l.counters.attempts := by
    have hattempts := h.attempts
    simpa [Flight.isClaimed] using hattempts
  -- the transport is disconnected, and the link has none
  have hgone {l' : Link τ} {actions : List (LinkAction τ)}
      (hactions : actions.flatMap LinkAction.calls = [.disconnect id]) (hnone : l'.transport = none)
      (hattempts : l'.counters.attempts = l.counters.attempts) :
      Ledger l' (calls ++ actions.flatMap LinkAction.calls) ([] ++ []) := by
    have hquiet : ∀ c ∈ [Call.disconnect id], c.isBuild = false := by simp [Call.isBuild]
    rw [hactions]
    refine ⟨?_, ?_, atMostOne_append h.atMostOne hquiet⟩
    · rw [standing_append_of_not_build calls hquiet, hheld, hnone]
      simp [Call.disconnects]
    · rw [filter_isBuild_append calls hquiet, hcounted, hattempts]
      rfl
  by_cases hcurrent : a.generation = l.generation
  · cases up with
    | true =>
        obtain ⟨reports, hup⟩ := Link.settle_up hcurrent now id
        rw [hup, calls_reports, List.append_nil]
        refine ⟨by rw [hheld]; rfl, ?_, h.atMostOne⟩
        rw [hcounted, Link.risen]
        split <;> rfl
    | false =>
        obtain ⟨reports, hdown⟩ := Link.settle_down hcurrent now id
        rw [hdown]
        refine hgone ?_ htransport rfl
        rw [List.flatMap_cons, calls_reports]
        rfl
  · rw [Link.settle_of_ne hcurrent]
    exact hgone rfl htransport rfl

end Ledger

namespace Rig

section

variable {σ τ : Type} [Carrier σ τ]

theorem accept_eq_change (r : Rig σ τ) (k : Nat) (line : Option (List UInt8)) :
    (r.accept k line).2 = r.change k fun l => (l.accept line).2 := by
  unfold Rig.accept change
  split <;> rfl

/-- The link comes out disabled and without a transport, and the one it owned has been disconnected. -/
structure Parked (k : Nat) (r : Rig (Traced σ) τ) (l : Link τ) (r' : Rig (Traced σ) τ) : Prop where
  calls_eq : r'.calls = r.calls ++ l.transport.toList.map .disconnect
  after : ∃ l', r'.link? k = some l' ∧ l'.phase = .disabled ∧ l'.transport = none

theorem parked_change {k : Nat} {r : Rig (Traced σ) τ} {l : Link τ} {inFlight : List Attempt} {now : τ}
    {wish : Bool} {target : Target} (hl : r.link? k = some l) (hsound : l.Sound inFlight)
    (operation : Link τ → Link τ × List (LinkAction τ))
    (hdirected : l.Directed now wish target ((operation l).2.flatMap LinkAction.calls) (operation l).1)
    (hwish : ¬ (wish = true ∧ target.isValid = true)) : Parked k r l (r.change k operation) := by
  obtain ⟨hcalls, hphase, htransport⟩ := hdirected.parked hsound hwish
  exact ⟨by rw [calls_change hl, hcalls], _, link?_change hl operation, hphase, htransport⟩

end

variable {σ τ : Type} [Carrier σ τ] [Zero τ] [Sub τ] [Mul τ] [LE τ] [DecidableLE τ] [LT τ]
  [DecidableLT τ]

/-- A run of link `k` in which building and connecting do not break down, with the attempts in flight.
The trace begins with the link. -/
inductive Course (k : Nat) : Rig (Traced σ) τ → List Flight → Prop
  | made (r : Rig (Traced σ) τ) (options : LinkOptions τ) (host : String) (port : Int) (sink : Sink)
      (hk : r.stations.size = k) (hcalls : r.calls = []) :
      Course k (r.addLink options (.of host port) sink).2 []
  /-- Something happens that is not up to this link and neither builds nor disconnects a transport: time
  passes, a transport is used, a notification is handed over. -/
  | elsewhere {r r' : Rig (Traced σ) τ} {flights : List Flight} (h : Course k r flights)
      (hlink : r'.link? k = r.link? k) (uses : List Call) (huses : ∀ c ∈ uses, c.isUse = true)
      (hcalls : r'.calls = r.calls ++ uses) : Course k r' flights
  | setEnabled {r : Rig (Traced σ) τ} {flights : List Flight} (h : Course k r flights) (on : Bool) :
      Course k (r.setEnabled k on) flights
  | configure {r : Rig (Traced σ) τ} {flights : List Flight} (h : Course k r flights) (host : String)
      (port : Int) : Course k (r.configure k (.of host port)) flights
  | shutDown {r : Rig (Traced σ) τ} {flights : List Flight} (h : Course k r flights) :
      Course k (r.shutDownLink k) flights
  | look {r : Rig (Traced σ) τ} {flights : List Flight} (h : Course k r flights) :
      Course k (r.look k).2 ((r.look k).1.claimed.map (⟨·, .claimed⟩) ++ flights)
  | build {r r' : Rig (Traced σ) τ} {before after : List Flight} {a : Attempt}
      (h : Course k r (before ++ ⟨a, .claimed⟩ :: after)) (limits : TransportLimits τ) {id : Nat}
      (hbuild : (r.via fun o => Carrier.build o limits a.target) = (.ok id, r')) :
      Course k r' (before ++ ⟨a, .built id⟩ :: after)
  | connect {r r' : Rig (Traced σ) τ} {before after : List Flight} {a : Attempt} {id : Nat}
      (h : Course k r (before ++ ⟨a, .built id⟩ :: after)) {up : Bool}
      (hconnect : (r.via fun o => Carrier.connect o id) = (.ok up, r')) :
      Course k r' (before ++ ⟨a, .connected id up⟩ :: after)
  | conclude {r : Rig (Traced σ) τ} {before after : List Flight} {a : Attempt} {id : Nat} {up : Bool}
      (h : Course k r (before ++ ⟨a, .connected id up⟩ :: after)) :
      Course k (r.conclude k a id up).2 (before ++ after)
  | sent {r : Rig (Traced σ) τ} {flights : List Flight} (h : Course k r flights) (m : Message)
      (delivered : Bool) : Course k (r.change k (·.sent m delivered)) flights
  | countSent {r : Rig (Traced σ) τ} {flights : List Flight} (h : Course k r flights) :
      Course k (r.change k fun l => (l.countSent, [])) flights
  | countFailed {r : Rig (Traced σ) τ} {flights : List Flight} (h : Course k r flights) :
      Course k (r.change k fun l => (l.countFailed, [])) flights
  | accept {r : Rig (Traced σ) τ} {flights : List Flight} (h : Course k r flights)
      (line : Option (List UInt8)) : Course k (r.accept k line).2 flights

namespace Course

variable {k : Nat} {r r' : Rig (Traced σ) τ} {flights : List Flight} {l : Link τ}

/-- Every course passes through moments at which the lock is free. -/
theorem moment (h : Course k r flights) : Moment k r (flights.map Flight.attempt) := by
  induction h with
  | made r options host port sink hk _ => exact .made r options host port sink hk
  | elsewhere _ hlink _ _ _ ih => exact ih.elsewhere hlink
  | setEnabled _ on ih => exact ih.setEnabled on
  | configure _ host port ih => exact ih.configure host port
  | shutDown _ ih => exact ih.shutDown
  | look _ ih =>
      rw [List.map_append, List.map_map]
      have hclaimed : (Flight.attempt ∘ fun a => ⟨a, .claimed⟩) = id := rfl
      rw [hclaimed, List.map_id]
      exact ih.look
  | @build _ _ _ _ a _ limits _ hbuild ih =>
      have hbuilt := ih.via fun o => Carrier.build o limits a.target
      rw [hbuild] at hbuilt
      simpa using hbuilt
  | @connect _ _ _ _ _ id _ _ hconnect ih =>
      have hconnected := ih.via fun o => Carrier.connect o id
      rw [hconnect] at hconnected
      simpa using hconnected
  | conclude _ ih =>
      rw [List.map_append, List.map_cons] at ih
      rw [List.map_append]
      exact ih.conclude _ _
  | sent _ m delivered ih => exact ih.sent m delivered
  | countSent _ ih => exact ih.countSent
  | countFailed _ ih => exact ih.countFailed
  | accept _ line ih => exact ih.accept line

theorem sound (h : Course k r flights) (hl : r.link? k = some l) :
    l.Sound (flights.map Flight.attempt) :=
  h.moment.sound_of_link hl

/-- An operation on the link that claims nothing keeps the ledger. -/
theorem ledger_change (h : Course k r flights)
    (ih : ∀ l, r.link? k = some l → Ledger l r.calls flights)
    (operation : Link τ → Link τ × List (LinkAction τ))
    (hcustody : ∀ l : Link τ, l.Sound (flights.map Flight.attempt) →
      l.Custody (operation l).1.transport ((operation l).2.flatMap LinkAction.calls))
    (hattempts : ∀ l, (operation l).1.counters.attempts = l.counters.attempts)
    (hl : (r.change k operation).link? k = some l) :
    Ledger l (r.change k operation).calls flights := by
  obtain ⟨l₀, hl₀, hsound⟩ := h.moment.sound
  rw [link?_change hl₀] at hl
  obtain rfl := Option.some.inj hl
  rw [calls_change hl₀]
  exact (ih l₀ hl₀).custody hsound (hcustody l₀ hsound) [] (hattempts l₀)

/-- Counting a message makes no call. -/
theorem ledger_count (h : Course k r flights)
    (ih : ∀ l, r.link? k = some l → Ledger l r.calls flights)
    (operation : Link τ → Link τ × List (LinkAction τ))
    (hcalls : ∀ l, (operation l).2.flatMap LinkAction.calls = [])
    (htransport : ∀ l, (operation l).1.transport = l.transport)
    (hattempts : ∀ l, (operation l).1.counters.attempts = l.counters.attempts)
    (hl : (r.change k operation).link? k = some l) :
    Ledger l (r.change k operation).calls flights := by
  refine ledger_change h ih operation (fun l _ => ?_) hattempts hl
  rw [hcalls]
  exact .same (htransport l)

/-- The first part of an update keeps the ledger, with the attempt that it may claim. -/
theorem ledger_look (h : Course k r flights)
    (ih : ∀ l, r.link? k = some l → Ledger l r.calls flights) (hl : (r.look k).2.link? k = some l) :
    Ledger l (r.look k).2.calls ((r.look k).1.claimed.map (⟨·, .claimed⟩) ++ flights) := by
  obtain ⟨l₀, hl₀, hsound⟩ := h.moment.sound
  cases hattempting : l₀.attempting with
  | true =>
      rw [look_of_attempting hl₀ hattempting] at hl ⊢
      exact ih l hl
  | false =>
      obtain ⟨alive, r', hdoes, hlook⟩ := Does.look hl₀
      obtain ⟨status, reports, hpoll⟩ := Link.poll_of_idle hattempting r.now alive
      have hdone := hdoes.change rfl { (l₀.advance r.now alive).1 with status }
        ((l₀.advance r.now alive).2.1 ++ reports.map .report)
      obtain ⟨hcustody, hattempts⟩ := hsound.custody_advance r.now alive
      have hledger := (ih l₀ hl₀).custody hsound hcustody _ hattempts
      rw [hlook, hpoll] at hl ⊢
      obtain rfl := Option.some.inj (hdone.after.symm.trans hl)
      have hcalls := hdone.calls_eq
      rw [List.flatMap_append, calls_reports, List.append_nil] at hcalls
      dsimp only
      rw [hcalls]
      exact hledger.congr rfl rfl

/-- The ledger is balanced at every moment of a course. -/
theorem ledger (h : Course k r flights) (hl : r.link? k = some l) : Ledger l r.calls flights := by
  induction h generalizing l with
  | made r options host port sink hk hcalls =>
      subst hk
      rw [link?_addLink] at hl
      cases hl
      have hnone : (r.addLink options (.of host port) sink).2.calls = [] := hcalls
      rw [hnone]
      exact ⟨rfl, rfl, by simp [standing]⟩
  | elsewhere h hlink uses huses hcalls ih =>
      rw [hlink] at hl
      rw [hcalls]
      exact (ih hl).custody (h.sound hl) (.keep uses huses rfl) [] rfl
  | @setEnabled r _ h on ih =>
      exact ledger_change h (fun l => ih) (·.setEnabled r.now on)
        (fun l hsound => (hsound.directed_setEnabled r.now on).custody)
        (fun l => congrArg _ (Link.counters_setEnabled l r.now on)) hl
  | @configure r _ h host port ih =>
      exact ledger_change h (fun l => ih) (·.configure r.now (.of host port))
        (fun l hsound => (hsound.directed_configure r.now host port).custody)
        (fun l => congrArg _ (Link.counters_configure l r.now _)) hl
  | @shutDown r _ h ih =>
      exact ledger_change h (fun l => ih) (·.shutDown r.now)
        (fun l hsound => by
          rw [Link.calls_shutDown]
          exact (hsound.directed_setEnabled r.now false).custody)
        (fun l => congrArg _ (Link.counters_setEnabled l r.now false)) hl
  | look h ih => exact ledger_look h (fun l => ih) hl
  | @build r r' _ _ a h limits id hbuild ih =>
      obtain rfl : (r.via fun o => Carrier.build o limits a.target).2 = r' := congrArg Prod.snd hbuild
      rw [calls_build, hbuild]
      exact (ih hl).build (h.sound hl) a.target id
  | @connect r r' _ _ a id h up hconnect ih =>
      obtain rfl : (r.via fun o => Carrier.connect o id).2 = r' := congrArg Prod.snd hconnect
      rw [calls_connect, hconnect]
      exact (ih hl).connect up
  | conclude h ih =>
      obtain ⟨l₀, hl₀, hsound⟩ := h.moment.sound
      rw [link?_conclude hl₀] at hl
      obtain rfl := Option.some.inj hl
      rw [calls_conclude hl₀]
      exact (ih hl₀).settle hsound _
  | sent h m delivered ih =>
      exact ledger_count h (fun l => ih) (·.sent m delivered) (fun _ => by cases delivered <;> rfl)
        (fun _ => by cases delivered <;> rfl) (fun _ => by cases delivered <;> rfl) hl
  | countSent h ih =>
      exact ledger_count h (fun l => ih) _ (fun _ => rfl) (fun _ => rfl) (fun _ => rfl) hl
  | countFailed h ih =>
      exact ledger_count h (fun l => ih) _ (fun _ => rfl) (fun _ => rfl) (fun _ => rfl) hl
  | accept h line ih =>
      rw [accept_eq_change] at hl ⊢
      exact ledger_count h (fun l => ih) (fun l => (l.accept line).2)
        (fun l => (l.accept_custody line).1) (fun l => (l.accept_custody line).2.1)
        (fun l => (l.accept_custody line).2.2) hl

/-- What changes neither the stations nor the calls leads from course to course. -/
theorem quietly (h : Course k r flights) (hstations : r'.stations = r.stations)
    (hcalls : r'.calls = r.calls) : Course k r' flights :=
  h.elsewhere (link?_of_stations hstations k) [] (by simp) (by rw [hcalls, List.append_nil])

/-- A use of a transport leads from course to course. -/
theorem use {α : Type} (h : Course k r flights) (call : Traced σ → α × Traced σ) (c : Call)
    (huse : c.isUse = true) (hcalls : (r.via call).2.calls = r.calls ++ [c]) :
    Course k (r.via call).2 flights :=
  h.elsewhere (link?_of_stations (stations_via r call) k) [c] (by simpa using huse) hcalls

/-- Sending, receiving and requests lead from course to course. -/
theorem messaging : Messaging k fun r : Rig (Traced σ) τ => Course k r flights where
  report _ h := h.quietly rfl rfl
  sending id bytes h := h.use _ (.send id bytes _) rfl rfl
  receiving id h := h.use _ (.receive id _) rfl rfl
  exchanging id bytes h := h.use _ (.exchange id bytes _) rfl rfl
  sent m delivered h := h.sent m delivered
  countSent h := h.countSent
  countFailed h := h.countFailed
  accept line h := h.accept line

theorem tell {reaction : Rig (Traced σ) τ → Rig (Traced σ) τ} (h : Course k r flights)
    (hreaction : ∀ r, Course k r flights → Course k (reaction r) flights) (sink : Sink) (e : Edge) :
    Course k (r.tell sink e reaction) flights :=
  tell_keeps (P := fun r => Course k r flights) (fun _ _ h => h.quietly rfl rfl) hreaction sink e h

/-- An attempt that does not break down ends with its transport adopted or discarded, and is then no
longer in flight. -/
theorem attempt {a : Attempt} {window reaction : Rig (Traced σ) τ → Rig (Traced σ) τ}
    (h : Course k r (⟨a, .claimed⟩ :: flights)) (limits : TransportLimits τ) (sink : Sink)
    (hwindow : ∀ r f, Course k r (f :: flights) → Course k (window r) (f :: flights))
    (hreaction : ∀ r, Course k r flights → Course k (reaction r) flights)
    (hok : (r.attempt k limits sink a window reaction).1 = .ok ()) :
    Course k (r.attempt k limits sink a window reaction).2 flights := by
  -- the steps of an attempt allow others before it
  have hfirst : Course k r ([] ++ ⟨a, .claimed⟩ :: flights) := h
  unfold Rig.attempt at hok ⊢
  cases hbuild : r.via fun o => Carrier.build o limits a.target with
  | mk built r₁ =>
      rw [hbuild] at hok
      cases built with
      | error fault => cases hok
      | ok id =>
          have hbuilt := hfirst.build limits hbuild
          have hopened : Course k (r₁.via fun o => ((), Carrier.approach o id)).2
              (⟨a, .built id⟩ :: flights) := hbuilt.quietly rfl rfl
          have hentered : Course k (window (r₁.via fun o => ((), Carrier.approach o id)).2)
              ([] ++ ⟨a, .built id⟩ :: flights) := hwindow _ _ hopened
          dsimp only at hok ⊢
          cases hconnect :
              (window (r₁.via fun o => ((), Carrier.approach o id)).2).via
                fun o => Carrier.connect o id with
          | mk connected r₂ =>
              rw [hconnect] at hok
              cases connected with
              | error fault => cases hok
              | ok up =>
                  have hconcluded : Course k (r₂.conclude k a id up).2 flights :=
                    (hentered.connect hconnect).conclude
                  dsimp only
                  cases hconclude : r₂.conclude k a id up with
                  | mk edge r₃ =>
                      rw [hconclude] at hconcluded
                      cases edge with
                      | none => exact hconcluded
                      | some e => exact hconcluded.tell hreaction sink e

/-- A whole update that does not break down leads from course to course, as long as the calls inside it
do. -/
theorem update {window reaction : Rig (Traced σ) τ → Rig (Traced σ) τ} (h : Course k r flights)
    (hwindow : ∀ r f, Course k r (f :: flights) → Course k (window r) (f :: flights))
    (hreaction : ∀ r, Course k r flights → Course k (reaction r) flights)
    (hok : (r.update k window reaction).1 = .ok ()) :
    Course k (r.update k window reaction).2 flights := by
  have hlooked := h.look
  unfold Rig.update at hok ⊢
  cases hstation : r.stations[k]? with
  | none => exact h
  | some s =>
      rw [hstation] at hok
      dsimp only at hok ⊢
      cases hlook : r.look k with
      | mk polled r₁ =>
          rw [hlook] at hlooked hok
          cases polled with
          | quiet => exact hlooked
          | edge e => exact Course.tell hlooked hreaction s.sink e
          | attempt a => exact Course.attempt hlooked s.limits s.sink hwindow hreaction hok

/-- A transport that was built has been disconnected, or it is that of a connected link or that of an
attempt in flight. -/
theorem disconnected_or_held (h : Course k r flights) (hl : r.link? k = some l)
    {before after : List Call} {target : Target} {id : Nat}
    (hcalls : r.calls = before ++ .build target (.ok id) :: after) :
    .disconnect id ∈ after ∨ (l.phase = .connected ∧ l.transport = some id) ∨
      ∃ f ∈ flights, f.transport? = some id := by
  rcases disconnected_or_standing hcalls with hgone | hstands
  · exact .inl hgone
  · right
    rw [(h.ledger hl).standing_eq] at hstands
    rcases List.mem_append.mp hstands with howned | hheld
    · have htransport : l.transport = some id := by simpa using howned
      have hphase := (h.sound hl).owns_iff.mp (by simp [htransport])
      exact .inl ⟨hphase, htransport⟩
    · exact .inr (List.mem_filterMap.mp hheld)

/-- Every transport is accounted for.  One was built for each attempt that was counted, unless that has
only been claimed; a transport that was built has been disconnected, or it is that of the connected link
or that of an attempt in flight; never has more than one stood; while the link is disabled and nothing
is in flight, none does; turning the link off, shutting it down and giving it an invalid target
disconnect the transport it owned; and a whole update leaves no attempt in flight behind. -/
theorem built_counted_disconnected_or_held (h : Course k r flights) (hl : r.link? k = some l) :
    (r.calls.filter Call.isBuild).length + (flights.filter Flight.isClaimed).length =
        l.counters.attempts ∧
      (∀ before target id after, r.calls = before ++ .build target (.ok id) :: after →
        .disconnect id ∈ after ∨ (l.phase = .connected ∧ l.transport = some id) ∨
          ∃ f ∈ flights, f.transport? = some id) ∧
      (∀ past, past <+: r.calls → (standing past).length ≤ 1) ∧
      (l.phase = .disabled → flights = [] → ∀ before target id after,
        r.calls = before ++ .build target (.ok id) :: after → .disconnect id ∈ after) ∧
      Parked k r l (r.setEnabled k false) ∧
      Parked k r l (r.shutDownLink k) ∧
      (∀ host port, (Target.of host port).isValid = false →
        Parked k r l (r.configure k (.of host port))) ∧
      ∀ window reaction,
        (∀ r f, Course k r (f :: flights) → Course k (window r) (f :: flights)) →
        (∀ r, Course k r flights → Course k (reaction r) flights) →
        (r.update k window reaction).1 = .ok () → Course k (r.update k window reaction).2 flights := by
  have hledger := h.ledger hl
  have hsound := h.sound hl
  have hoff : ¬ (false = true ∧ l.target.isValid = true) := by simp
  refine ⟨hledger.attempts, fun _ _ _ _ => h.disconnected_or_held hl, hledger.atMostOne, ?_, ?_, ?_, ?_,
    fun _ _ => h.update⟩
  · rintro hphase rfl before target id after hcalls
    rcases h.disconnected_or_held hl hcalls with hgone | ⟨hconnected, -⟩ | ⟨f, hf, -⟩
    · exact hgone
    · rw [hphase] at hconnected
      cases hconnected
    · cases hf
  · exact parked_change hl hsound (·.setEnabled r.now false)
      (hsound.directed_setEnabled r.now false) hoff
  · have hshut := hsound.directed_setEnabled r.now false
    rw [← Link.calls_shutDown] at hshut
    exact parked_change hl hsound (·.shutDown r.now) hshut hoff
  · intro host port hinvalid
    exact parked_change hl hsound (·.configure r.now (.of host port))
      (hsound.directed_configure r.now host port) (by simp [hinvalid])

/-- A link that is sent a message and turned off while it connects, which succeeds all the same: the
transport is disconnected. -/
theorem built_counted_disconnected_or_held_turned_off :
    ∃ (r : Rig (Traced (Scripted Int)) Int) (l : Link Int), Course 0 r [] ∧ r.link? 0 = some l ∧
      l.phase = .disabled ∧ l.counters.attempts = 1 ∧
      r.calls = [.build (.of "10.0.0.2" 7000) (.ok 0), .connect 0 (.ok true), .disconnect 0] ∧
      (r.calls.filter Call.isBuild).length = l.counters.attempts ∧
      Parked 0 r l (r.setEnabled 0 false) := by
  have hmade := Course.made ({ outside := ⟨{ clock := 0 }, []⟩ } : Rig (Traced (Scripted Int)) Int)
    ⟨⟨3, 1, defaultLineLimit⟩, {}, 5, 0, .start 1 2 30⟩ "10.0.0.2" 7000 .log rfl rfl
  have hready := (hmade.setEnabled true).look
  obtain ⟨-, -, -, -, -, -, -, hupdate⟩ := hready.built_counted_disconnected_or_held rfl
  have hdone := hupdate (fun r => (r.send 0 {}).2.setEnabled 0 false) id
    (fun _ _ h => (messaging.send h {}).setEnabled false) (fun _ h => h) rfl
  obtain ⟨hcounted, -, -, -, hparked, -⟩ := hdone.built_counted_disconnected_or_held rfl
  exact ⟨_, _, hdone, rfl, rfl, rfl, rfl, hcounted, hparked⟩

end Course

end Rig

end PeripheralLink

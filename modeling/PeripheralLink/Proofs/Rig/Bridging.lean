import PeripheralLink.Loop
import PeripheralLink.Proofs.Rig.Openings
import PeripheralLink.Proofs.Rig.Recovery
/-!
The bridge and the links that it has had.  Opening the bridge makes a new link, so that a rig comes to have
many; all but the bridge's own are left turned off for good, and the transport of that one is all that
stands (`Tended`).  Of the sinks, one that was given stays with the bridge for ever and is never closed; one
that the bridge has made goes with the link that it was made for.

`Bridging` is a run of calls on the bridge, and `Bridging.keeps_one` says what holds all along.
-/

namespace PeripheralLink

/-- Of the transports that were built this one stands, if any, and never has more than one stood. -/
structure OneStands (calls : List Call) (own : Option Nat) : Prop where
  standing_eq : standing calls = own.toList
  atMostOne : ∀ past, past <+: calls → (standing past).length ≤ 1

/-- Building or connecting has come to something. -/
def Call.Returns : Call → Prop
  | build _ result => ∃ id, result = .ok id
  | connect _ result => ∃ up, result = .ok up
  | _ => True

namespace OneStands

variable {calls new : List Call} {own : Option Nat}

theorem nil : OneStands [] none where
  standing_eq := rfl
  atMostOne past hpast := by
    rw [List.prefix_nil.mp hpast]
    exact Nat.zero_le 1

theorem uses (h : OneStands calls own) (huses : ∀ c ∈ new, c.isUse = true) :
    OneStands (calls ++ new) own where
  standing_eq := (standing_append_uses calls huses).trans h.standing_eq
  atMostOne := Ledger.atMostOne_append h.atMostOne fun c hc => isBuild_of_isUse (huses c hc)

theorem use (h : OneStands calls own) {c : Call} (huse : c.isUse = true) : OneStands (calls ++ [c]) own :=
  h.uses (by simpa using huse)

theorem build (h : OneStands calls none) (target : Target) (id : Nat) :
    OneStands (calls ++ [.build target (.ok id)]) (some id) := by
  have hstanding : standing (calls ++ [.build target (.ok id)]) = [id] := by
    rw [standing_append_build, h.standing_eq]
    rfl
  refine ⟨hstanding, ?_⟩
  intro past hpast
  rcases List.prefix_concat_iff.mp hpast with rfl | hold
  · rw [hstanding]
    exact Nat.le_refl 1
  · exact h.atMostOne past hold

theorem disconnect (h : OneStands calls own) : OneStands (calls ++ own.toList.map .disconnect) none := by
  have hquiet : ∀ c ∈ own.toList.map Call.disconnect, c.isBuild = false := by simp [Call.isBuild]
  refine ⟨?_, Ledger.atMostOne_append h.atMostOne hquiet⟩
  rw [standing_append_of_not_build calls hquiet, h.standing_eq]
  cases own <;> simp [Call.disconnects]

/-- An operation that keeps the transport of a link or disconnects it. -/
theorem custody {τ : Type} {l : Link τ} {left : Option Nat} (h : OneStands calls l.transport)
    (hcustody : l.Custody left new) : OneStands (calls ++ new) left := by
  cases hcustody with
  | keep uses huses hleft =>
      rw [hleft]
      exact h.uses huses
  | release uses huses hleft =>
      rw [hleft, ← List.append_assoc]
      exact (h.uses huses).disconnect

/-- A row of the table. -/
theorem row {τ : Type} [Sub τ] [Mul τ] [LE τ] [LT τ] [DecidableLT τ] {l l' : Link τ} {now later : τ}
    {edge : Option Edge} (h : OneStands calls l.transport) (hsound : l.Sound [])
    (hrow : l.Transition now later new (.ok edge) l') : OneStands (calls ++ new) l'.transport := by
  have hnothing : OneStands (calls ++ []) l.transport := by
    rw [List.append_nil]
    exact h
  have hbuilt (hphase : l.phase ≠ .connected) (target : Target) (id : Nat) (up : Bool) :
      OneStands (calls ++ [.build target (.ok id), .connect id (.ok up)]) (some id) := by
    rw [hsound.transport_eq_none hphase] at h
    have hconnected := (h.build target id).use (c := .connect id (.ok up)) rfl
    rwa [List.append_assoc] at hconnected
  have hgone (hphase : l.phase ≠ .connected) (target : Target) (id : Nat) :
      OneStands (calls ++ [.build target (.ok id), .connect id (.ok false), .disconnect id]) l.transport := by
    have hdown := (hbuilt hphase target id false).disconnect
    rw [List.append_assoc] at hdown
    rw [hsound.transport_eq_none hphase]
    exact hdown
  cases hrow with
  | disabled _ => exact hnothing
  | disconnected _ => exact hnothing
  | unchecked _ _ => exact hnothing
  | waiting _ _ => exact hnothing
  | connected hphase id => exact hbuilt (by simp [hphase]) _ id true
  | reconnected hphase _ id => exact hbuilt (by simp [hphase]) _ id true
  | unreachable hphase id => exact hgone (by simp [hphase]) _ id
  | retried hphase _ id => exact hgone (by simp [hphase]) _ id
  | alive _ _ id _ => exact h.use rfl
  | lost _ _ id howns =>
      rw [howns] at h
      have hprobed := (h.use (c := .probe id false) rfl).disconnect
      rwa [List.append_assoc] at hprobed

end OneStands

/-- As long as building and connecting come to something, an update does. -/
theorem Link.Transition.returns {τ : Type} [Sub τ] [Mul τ] [LE τ] [LT τ] [DecidableLT τ] {l l' : Link τ}
    {now later : τ} {calls : List Call} {outcome : Except Fault (Option Edge)}
    (h : l.Transition now later calls outcome l') (hreturns : ∀ c ∈ calls, c.Returns) :
    ∃ edge, outcome = .ok edge := by
  cases h with
  | raised _ fault calls hcalls =>
      cases hcalls with
      | unbuilt _ => exact nomatch hreturns (.build l.target (.error fault)) (by simp)
      | broken id _ => exact nomatch hreturns (.connect id (.error fault)) (by simp)
  | _ => exact ⟨_, rfl⟩

namespace Rig

variable {σ τ : Type} [Carrier σ τ] [Zero τ] [Sub τ] [Mul τ] [LE τ] [DecidableLE τ] [LT τ]
  [DecidableLT τ]

/-- All links but the bridge's are disabled, and the transport of the bridge's is the one that stands. -/
structure Tended (given : Option Sink) (r : Rig (Traced σ) τ) : Prop where
  parked : ∀ j l, r.link? j = some l → r.bridge.station ≠ some j → l.phase = .disabled
  current : ∀ k, r.bridge.station = some k → Moment k r []
  stands : OneStands r.calls (r.bridgeLink?.bind Link.transport)
  furnished : r.bridge.Furnished given

namespace Tended

variable {given : Option Sink} {k : Nat} {r r' : Rig (Traced σ) τ}

/-- The bridge's link alone has been at work, and it has only the one transport. -/
theorem work (h : Tended given r) (hk : r.bridge.station = some k) (hconfined : Confined k r r')
    (hmoment : Moment k r' [])
    (hstands : ∀ l, r.link? k = some l → OneStands r.calls l.transport →
      ∃ l', r'.link? k = some l' ∧ OneStands r'.calls l'.transport) : Tended given r' := by
  have hk' : r'.bridge.station = some k := by rw [hconfined.bridge, hk]
  have hstanding := h.stands
  obtain ⟨l, hl, -⟩ := (h.current k hk).sound
  rw [bridgeLink?, hk, Option.bind_some, hl, Option.bind_some] at hstanding
  obtain ⟨l', hl', hstands'⟩ := hstands l hl hstanding
  refine ⟨?_, ?_, ?_, ?_⟩
  · intro j l₁ hl₁ hj
    have hne : j ≠ k := by
      rintro rfl
      exact hj hk'
    rw [hconfined.others j hne] at hl₁
    exact h.parked j l₁ hl₁ (by rwa [hconfined.bridge] at hj)
  · intro k' hk''
    obtain rfl := Option.some.inj (hk'.symm.trans hk'')
    exact hmoment
  · rw [bridgeLink?, hk', Option.bind_some, hl']
    exact hstands'
  · rw [hconfined.bridge]
    exact h.furnished

/-- A change of the link that keeps its transport and makes no call. -/
theorem count (h : Tended given r) (hk : r.bridge.station = some k)
    (operation : Link τ → Link τ × List (LinkAction τ)) (hmoment : Moment k (r.change k operation) [])
    (hkept : ∀ l, (operation l).1.transport = l.transport)
    (hcalls : ∀ l, (operation l).2.flatMap LinkAction.calls = []) :
    Tended given (r.change k operation) ∧ (r.change k operation).bridge.station = some k := by
  have hconfined := Confined.change k r operation
  refine ⟨h.work hk hconfined hmoment ?_, by rw [hconfined.bridge, hk]⟩
  intro l hl hstands
  refine ⟨_, link?_change hl operation, ?_⟩
  rw [calls_change hl, hcalls, List.append_nil, hkept]
  exact hstands

/-- A use of the outside. -/
theorem use {α : Type} (h : Tended given r) (hk : r.bridge.station = some k)
    (call : Traced σ → α × Traced σ) (c : Call) (huse : c.isUse = true)
    (hcalls : (r.via call).2.calls = r.calls ++ [c]) : Tended given (r.via call).2 := by
  refine h.work hk (.via k r call) ((h.current k hk).via call) ?_
  intro l hl hstands
  refine ⟨l, (link?_of_stations (stations_via r call) k).trans hl, ?_⟩
  rw [hcalls]
  exact hstands.use huse

theorem messaging (given : Option Sink) (k : Nat) :
    Messaging k fun r : Rig (Traced σ) τ => Tended given r ∧ r.bridge.station = some k where
  report n h := ⟨⟨h.1.parked, fun j hj => (h.1.current j hj).report _, h.1.stands, h.1.furnished⟩, h.2⟩
  sending id bytes h := ⟨h.1.use h.2 _ (.send id bytes _) rfl rfl, h.2⟩
  receiving id h := ⟨h.1.use h.2 _ (.receive id _) rfl rfl, h.2⟩
  exchanging id bytes h := ⟨h.1.use h.2 _ (.exchange id bytes _) rfl rfl, h.2⟩
  sent m delivered h := by
    refine h.1.count h.2 _ ((h.1.current k h.2).sent m delivered) ?_ ?_
    · cases delivered <;> exact fun _ => rfl
    · cases delivered <;> exact fun _ => rfl
  countSent h := h.1.count h.2 _ (h.1.current k h.2).countSent (fun _ => rfl) fun _ => rfl
  countFailed h := h.1.count h.2 _ (h.1.current k h.2).countFailed (fun _ => rfl) fun _ => rfl
  accept line h := by
    have hmoment := (h.1.current k h.2).accept line
    rw [accept_eq_change] at hmoment ⊢
    exact h.1.count h.2 _ hmoment (fun l => (l.accept_custody line).2.1)
      fun l => (l.accept_custody line).1

/-- Turning the link on or off. -/
theorem setEnabled (h : Tended given r) (hk : r.bridge.station = some k) (on : Bool) :
    Tended given (r.setEnabled k on) := by
  have hmoment := h.current k hk
  refine h.work hk (.change k r _) (hmoment.setEnabled on) ?_
  intro l hl hstands
  have hsound := hmoment.sound_of_link hl
  refine ⟨_, link?_change hl (·.setEnabled r.now on), ?_⟩
  rw [Rig.setEnabled, calls_change hl (·.setEnabled r.now on)]
  exact hstands.custody (hsound.directed_setEnabled r.now on).custody

/-- An update in which building and connecting come to something. -/
theorem update (h : Tended given r) (hk : r.bridge.station = some k) {calls : List Call}
    (hcalls : (r.update k id id).2.calls = r.calls ++ calls) (hreturns : ∀ c ∈ calls, c.Returns) :
    Tended given (r.update k id id).2 := by
  have hmoment := h.current k hk
  obtain ⟨l, hl, hsound⟩ := hmoment.sound
  obtain ⟨s, hs, rfl⟩ := Option.map_eq_some_iff.mp hl
  obtain ⟨made, outcome, l', status, r', later, hdoes, hrow, hupdate⟩ := hmoment.update_row hs
  obtain ⟨hstations, htold⟩ := r'.told_frame s.sink outcome
  rw [hupdate, htold, hdoes.calls_eq] at hcalls
  obtain rfl := List.append_cancel_left hcalls
  obtain ⟨edge, rfl⟩ := hrow.returns hreturns
  have hupdated : Moment k (r.update k id id).2 [] := hmoment.update (fun _ _ h => h) (fun _ h => h)
  rw [hupdate] at hupdated ⊢
  refine h.work hk ((Confined.of_silently hdoes.silently).trans (.told k r' _ _)) hupdated ?_
  intro l₁ hl₁ hstands
  obtain rfl := Option.some.inj (hl.symm.trans hl₁)
  refine ⟨_, (link?_of_stations hstations k).trans hdoes.after, ?_⟩
  have hdone : OneStands (r.calls ++ made) l'.transport := hstands.row hsound hrow
  rw [htold, hdoes.calls_eq]
  exact hdone

end Tended

namespace Tended

variable {given : Option Sink} {r : Rig (Traced σ) τ}

/-- With the bridge's link turned off, all links are disabled and no transport stands. -/
theorem off (h : Tended given r) :
    (∀ j l, r.linkOff.link? j = some l → l.phase = .disabled) ∧ OneStands r.linkOff.calls none := by
  have hstands := h.stands
  cases hk : r.bridge.station with
  | none =>
      have hoff : r.linkOff = r := by rw [linkOff, hk]
      rw [bridgeLink?, hk, Option.bind_none, Option.bind_none] at hstands
      rw [hoff]
      exact ⟨fun j l hl => h.parked j l hl (by simp [hk]), hstands⟩
  | some k =>
      have hoff : r.linkOff = r.shutDownLink k := by rw [linkOff, hk]
      obtain ⟨l, hl, hsound⟩ := (h.current k hk).sound
      have hdirected := hsound.directed_setEnabled r.now false
      rw [← Link.calls_shutDown] at hdirected
      obtain ⟨hcalls, l', hl', hphase, htransport⟩ :=
        parked_change hl hsound (·.shutDown r.now) hdirected (by simp)
      rw [bridgeLink?, hk, Option.bind_some, hl, Option.bind_some] at hstands
      rw [hoff, shutDownLink]
      refine ⟨?_, by rw [hcalls]; exact hstands.disconnect⟩
      intro j l₁ hl₁
      by_cases hj : j = k
      · subst hj
        obtain rfl := Option.some.inj (hl'.symm.trans hl₁)
        exact hphase
      · rw [(Confined.change k r _).others j hj] at hl₁
        exact h.parked j l₁ hl₁ (by simpa [hk] using Ne.symm hj)

theorem of_closed (hbridge : r.bridge = { sink := given })
    (hparked : ∀ j l, r.link? j = some l → l.phase = .disabled) (hstands : OneStands r.calls none) :
    Tended given r where
  parked j l hl _ := hparked j l hl
  current k hk := by simp [hbridge] at hk
  stands := by
    rw [bridgeLink?, hbridge]
    exact hstands
  furnished := by
    rw [hbridge]
    exact ⟨fun sink hgiven => ⟨hgiven, rfl⟩, fun hgiven => ⟨by rw [hgiven]; rfl, rfl⟩⟩

theorem shutDown (h : Tended given r) : Tended given r.shutDownBridge := by
  obtain ⟨hstations, houtside⟩ := shutDownBridge_frame r
  obtain ⟨hparked, hstands⟩ := h.off
  have hcalls : r.shutDownBridge.calls = r.linkOff.calls := congrArg Traced.calls houtside
  refine of_closed (bridge_shutDownBridge h.furnished) ?_ ?_
  · intro j l hl
    rw [link?_of_stations hstations] at hl
    exact hparked j l hl
  · rw [hcalls]
    exact hstands

/-- With all links disabled a new one is added and becomes the bridge's. -/
theorem linked (hparked : ∀ j l, r.link? j = some l → l.phase = .disabled) (hstands : OneStands r.calls none)
    (hfurnished : Bridge.Furnished given { r.bridge with station := some r.stations.size })
    (options : LinkOptions τ) (host : String) (port : Int) (sink : Sink) :
    Tended given (r.linked options (.of host port) sink) := by
  have hstation : (r.linked options (.of host port) sink).bridge.station = some r.stations.size := rfl
  have hothers (j : Nat) (hj : r.stations.size ≠ j) :
      (r.linked options (.of host port) sink).link? j = r.link? j := by
    simp [Rig.linked, link?, Rig.addLink, Rig.report, Rig.record, Array.getElem?_push, hj.symm]
  have hnew : (r.linked options (.of host port) sink).link? r.stations.size = _ :=
    link?_addLink r options (.of host port) sink
  refine ⟨?_, ?_, ?_, hfurnished⟩
  · intro j l hl hj
    have hne : r.stations.size ≠ j := fun heq => hj (congrArg some heq)
    rw [hothers j hne] at hl
    exact hparked j l hl
  · intro k hk
    obtain rfl := Option.some.inj hk
    exact (Moment.made r options host port sink rfl).of_stations rfl
  · rw [bridgeLink?, hstation, Option.bind_some, hnew]
    exact hstands

/-- Without its link, a bridge has the sink that was given and no other. -/
theorem unlinked (h : Tended given r) :
    Tended given r.unlinked ∧ r.unlinked.bridge = { sink := given } := by
  unfold Rig.unlinked
  split
  · exact ⟨h.shutDown, bridge_shutDownBridge h.furnished⟩
  · rename_i hnone
    exact ⟨h, h.furnished.eq_of_closed (by simpa using hnone)⟩

/-- Opening the bridge, whether or not its sink can be made. -/
theorem opened (h : Tended given r) (options : BridgeOptions τ) {configured : String} {standard : Int}
    (htarget : options.target = .of configured standard) (host : Option String) (port : Option Int) :
    Tended given (r.openBridge options (host.map .text) (port.map .int)).2 := by
  have haimed : (⟨(host.map Value.text).getD options.target.host,
      (port.map Value.int).getD options.target.port⟩ : Target) =
        .of (host.getD configured) (port.getD standard) := by
    rw [htarget]
    cases host <;> cases port <;> rfl
  obtain ⟨hready, hbridge⟩ := h.unlinked
  rw [openBridge_eq, haimed]
  rcases hsink : r.unlinked.bridgeSink options with ⟨result, r₁⟩
  obtain ⟨hstations, houtside, houtcome⟩ := bridgeSink_spec hbridge hsink
  have hparked : ∀ j l, r₁.link? j = some l → l.phase = .disabled := by
    intro j l hl
    rw [link?_of_stations hstations] at hl
    exact hready.parked j l hl (by simp [hbridge])
  have hstands : OneStands r₁.calls none := by
    have hcalls : r₁.calls = r.unlinked.calls := congrArg Traced.calls houtside
    have hstanding := hready.stands
    rw [bridgeLink?, hbridge] at hstanding
    rw [hcalls]
    exact hstanding
  rcases houtcome with ⟨⟨fault, rfl⟩, -, hkept⟩ | ⟨rfl, hsunk⟩
  · exact of_closed hkept hparked hstands
  · have hlinked := linked hparked hstands (by rw [hsunk]; exact .opened given _ _) options.link
      (host.getD configured) (port.getD standard) (given.getD (r.unlinked.freshSink options))
    dsimp only
    split
    · exact hlinked.setEnabled rfl true
    · exact hlinked

/-- Something happens around the links that neither builds nor disconnects a transport. -/
theorem elsewhere {r' : Rig (Traced σ) τ} (h : Tended given r) (hstations : r'.stations = r.stations)
    (hbridge : r'.bridge = r.bridge) {uses : List Call} (huses : ∀ c ∈ uses, c.isUse = true)
    (hcalls : r'.calls = r.calls ++ uses) : Tended given r' where
  parked j l hl hj := by
    rw [link?_of_stations hstations] at hl
    exact h.parked j l hl (by rwa [hbridge] at hj)
  current k hk := (h.current k (by rwa [hbridge] at hk)).of_stations hstations
  stands := by
    have hlink : r'.bridgeLink? = r.bridgeLink? := by
      rw [bridgeLink?, bridgeLink?, hbridge]
      exact congrArg _ (funext (link?_of_stations hstations))
    rw [hlink, hcalls]
    exact h.stands.uses huses
  furnished := by
    rw [hbridge]
    exact h.furnished

end Tended

/-- A call on the bridge, with no other call inside it.  Whatever is built and connected during an update
comes to something. -/
inductive BridgeCall (r : Rig (Traced σ) τ) : Rig (Traced σ) τ → Prop
  | opened (options : BridgeOptions τ) {configured : String} {standard : Int}
      (htarget : options.target = .of configured standard) (host : Option String) (port : Option Int) :
      BridgeCall r (r.openBridge options (host.map .text) (port.map .int)).2
  | enabled (on : Bool) : BridgeCall r (r.setBridgeEnabled on)
  | updated {calls : List Call} (hcalls : r.updateBridge.2.calls = r.calls ++ calls)
      (hreturns : ∀ c ∈ calls, c.Returns) : BridgeCall r r.updateBridge.2
  | sent (m : Message) : BridgeCall r (r.sendBridge m).2
  | received : BridgeCall r r.receiveBridge.2
  | requested (m : Message) : BridgeCall r (r.requestBridge m).2
  | shutDown : BridgeCall r r.shutDownBridge

/-- A run of a bridge that was made with the sink that is given, if any. -/
inductive Bridging (given : Option Sink) : Rig (Traced σ) τ → Prop
  | made (r : Rig (Traced σ) τ) (hstations : r.stations = #[]) (hcalls : r.calls = [])
      (hbridge : r.bridge = { sink := given }) : Bridging given r
  /-- Time passes, a transport breaks down, a client loses its connection. -/
  | elsewhere {r r' : Rig (Traced σ) τ} (h : Bridging given r) (hstations : r'.stations = r.stations)
      (hbridge : r'.bridge = r.bridge) {uses : List Call} (huses : ∀ c ∈ uses, c.isUse = true)
      (hcalls : r'.calls = r.calls ++ uses) : Bridging given r'
  | call {r r' : Rig (Traced σ) τ} (h : Bridging given r) (hcall : BridgeCall r r') : Bridging given r'

section

variable {given : Option Sink} {r r' : Rig (Traced σ) τ}

theorem Tended.call (h : Tended given r) (hcall : BridgeCall r r') : Tended given r' := by
  cases hk : r.bridge.station with
  | none =>
      have hquiet (n : Report τ) : Tended given (r.report n) :=
        h.elsewhere rfl rfl (by simp) (List.append_nil _).symm
      cases hcall with
      | opened options htarget host port => exact h.opened options htarget host port
      | shutDown => exact h.shutDown
      | enabled on =>
          rw [setBridgeEnabled, hk]
          exact hquiet _
      | updated _ _ =>
          rw [updateBridge, hk]
          exact h
      | sent m =>
          rw [sendBridge, hk]
          exact h
      | received =>
          rw [receiveBridge, hk]
          exact h
      | requested m =>
          rw [requestBridge, hk]
          exact h
  | some k =>
      cases hcall with
      | opened options htarget host port => exact h.opened options htarget host port
      | shutDown => exact h.shutDown
      | enabled on =>
          rw [setBridgeEnabled, hk]
          exact h.setEnabled hk on
      | updated hcalls hreturns =>
          rw [updateBridge, hk] at hcalls ⊢
          exact h.update hk hcalls hreturns
      | sent m =>
          rw [sendBridge, hk]
          exact ((messaging given k).send ⟨h, hk⟩ m).1
      | received =>
          rw [receiveBridge, hk]
          exact ((messaging given k).receive ⟨h, hk⟩).1
      | requested m =>
          rw [requestBridge, hk]
          exact ((messaging given k).request ⟨h, hk⟩ m).1

theorem Bridging.tended (h : Bridging given r) : Tended given r := by
  induction h with
  | made r hstations hcalls hbridge =>
      refine .of_closed hbridge ?_ ?_
      · intro j l hl
        simp [link?, hstations] at hl
      · rw [hcalls]
        exact .nil
  | elsewhere _ hstations hbridge huses hcalls ih => exact ih.elsewhere hstations hbridge huses hcalls
  | call _ hcall ih => exact ih.call hcall

end

section

variable {given : Option Sink} {r r' : Rig (Traced σ) τ}

/-- An update works on its link alone. -/
theorem Moment.confined_update {k : Nat} (h : Moment k r []) : Confined k r (r.update k id id).2 := by
  obtain ⟨l, hl, -⟩ := h.sound
  obtain ⟨s, hs, -⟩ := Option.map_eq_some_iff.mp hl
  obtain ⟨_, outcome, _, _, r₁, _, hdoes, -, hupdate⟩ := h.update_row hs
  rw [hupdate]
  exact (Confined.of_silently hdoes.silently).trans (.told k r₁ s.sink outcome)

/-- No call on a bridge touches the client of a sink that was given. -/
theorem Tended.clients {sink : Sink} (h : Tended (some sink) r) (hcall : BridgeCall r r') :
    r'.clients = r.clients := by
  obtain ⟨hsink, howns⟩ := h.furnished.kept sink rfl
  cases hcall with
  | opened options _ host port =>
      obtain ⟨-, hbridge⟩ := h.unlinked
      have hunlinked : r.unlinked.clients = r.clients := by
        unfold Rig.unlinked
        split
        · exact clients_shutDownBridge howns
        · rfl
      have hfound : r.unlinked.bridgeSink options = (.ok sink, r.unlinked) := by
        simp only [bridgeSink, hbridge]
      rw [openBridge_eq, hfound, ← hunlinked]
      dsimp only
      split
      · exact (Confined.change _ (r.unlinked.linked options.link _ sink) _).clients
      · rfl
  | shutDown => exact clients_shutDownBridge howns
  | enabled on =>
      rw [setBridgeEnabled]
      cases r.bridge.station with
      | none => rfl
      | some k => exact (Confined.change k r _).clients
  | updated _ _ =>
      rw [updateBridge]
      cases hk : r.bridge.station with
      | none => rfl
      | some k => exact (h.current k hk).confined_update.clients
  | sent m =>
      rw [sendBridge]
      cases r.bridge.station with
      | none => rfl
      | some k => exact ((Confined.messaging k r).send (.refl k r) m).clients
  | received =>
      rw [receiveBridge]
      cases r.bridge.station with
      | none => rfl
      | some k => exact ((Confined.messaging k r).receive (.refl k r)).clients
  | requested m =>
      rw [requestBridge]
      cases r.bridge.station with
      | none => rfl
      | some k => exact ((Confined.messaging k r).request (.refl k r) m).clients

/-- A bridge without a given sink comes to have a new one of its own when it is opened. -/
theorem Tended.renewed (h : Tended none r) {options : BridgeOptions τ} {host port : Option Value}
    (hopen : r.openBridge options host port = (.ok (), r')) :
    r'.bridge.sink = some (r.freshSink options) ∧ r'.bridge.ownsSink = true := by
  obtain ⟨-, hbridge⟩ := h.unlinked
  have hfresh : r.unlinked.freshSink options = r.freshSink options := by
    unfold Rig.unlinked
    split
    · rename_i hstation
      obtain ⟨hsink, howns⟩ := h.furnished.own rfl
      obtain ⟨sink, hsink⟩ := Option.isSome_iff_exists.mp (hsink.trans hstation)
      exact freshSink_shutDownBridge (howns.trans hstation) hsink options
    · rfl
  rw [openBridge_eq] at hopen
  rcases hsink : r.unlinked.bridgeSink options with ⟨result, r₁⟩
  rw [hsink] at hopen
  obtain ⟨-, -, ⟨⟨fault, rfl⟩, -⟩ | ⟨rfl, hsunk⟩⟩ := bridgeSink_spec hbridge hsink
  · cases hopen
  · have hkept : r'.bridge = { r₁.bridge with station := some r₁.stations.size } := by
      obtain ⟨-, rfl⟩ := Prod.mk.inj hopen
      split
      · exact (Confined.change _ (r₁.linked options.link _ _) _).bridge
      · rfl
    rw [hkept, hsunk, ← hfresh]
    exact ⟨rfl, rfl⟩

/-- Every call on the bridge but opening it fails, raises nothing and does nothing. -/
structure Idle (r : Rig (Traced σ) τ) : Prop where
  enabled : ∀ on, r.setBridgeEnabled on = r.report (.bridge .ignored)
  updated : r.updateBridge = (.ok (), r)
  sent : ∀ m, r.sendBridge m = (.ok false, r)
  received : r.receiveBridge = (.ok none, r)
  requested : ∀ m, r.requestBridge m = (.ok none, r)
  stats : r.bridgeStats? = none
  phase : r.bridgePhase = .disabled
  connected : r.bridgeConnected = false
  shutDown : r.shutDownBridge = r.report (.bridge .shutDown)

theorem idle_of_closed (h : r.bridge = { sink := given }) : Idle r where
  enabled on := by rw [setBridgeEnabled, h]
  updated := by rw [updateBridge, h]
  sent m := by rw [sendBridge, h]
  received := by rw [receiveBridge, h]
  requested m := by rw [requestBridge, h]
  stats := by rw [bridgeStats?, bridgeLink?, h]; rfl
  phase := by rw [bridgePhase, bridgeLink?, h]; rfl
  connected := by rw [bridgeConnected, bridgePhase, bridgeLink?, h]; rfl
  shutDown := by simp only [shutDownBridge, h]

/-- One bridge, one link and one transport.  However a bridge is opened, used and shut down, and however
often, at most one of the links that it has made is not disabled and at most one of the transports that
were built has ever stood at once.  Without a link there is neither, nor a sink of the bridge's own, and
every call but opening fails and raises nothing.  A sink that was given stays, and no call touches its
client.  One that the bridge has made is closed and dropped when the bridge is shut down, and opening the
bridge makes a new one. -/
theorem Bridging.keeps_one (h : Bridging given r) :
    (∀ i j l l', r.link? i = some l → r.link? j = some l' → l.phase ≠ .disabled → l'.phase ≠ .disabled →
      i = j) ∧
    (∀ past, past <+: r.calls → (standing past).length ≤ 1) ∧
    (r.bridge.station = none → (∀ j l, r.link? j = some l → l.phase = .disabled) ∧
      standing r.calls = [] ∧ r.bridge.ownsSink = false ∧ Idle r) ∧
    (∀ sink, given = some sink → r.bridge.sink = some sink ∧ r.bridge.ownsSink = false ∧
      ∀ r', BridgeCall r r' → r'.bridge.sink = some sink ∧ r'.clients = r.clients) ∧
    (given = none →
      (∀ sink, r.bridge.sink = some sink → r.bridge.ownsSink = true ∧ Closes r r.shutDownBridge sink ∧
        r.shutDownBridge.bridge = {}) ∧
      ∀ options host port r', r.openBridge options host port = (.ok (), r') →
        r'.bridge.sink = some (r.freshSink options) ∧ r'.bridge.ownsSink = true) := by
  have htended := h.tended
  have hown {j : Nat} {l : Link τ} (hl : r.link? j = some l) (hphase : l.phase ≠ .disabled) :
      r.bridge.station = some j := by
    by_contra hother
    exact hphase (htended.parked j l hl hother)
  refine ⟨?_, htended.stands.atMostOne, ?_, ?_, ?_⟩
  · intro i j l l' hl hl' hphase hphase'
    exact Option.some.inj ((hown hl hphase).symm.trans (hown hl' hphase'))
  · intro hclosed
    have hbridge := htended.furnished.eq_of_closed hclosed
    have hstanding := htended.stands.standing_eq
    rw [bridgeLink?, hclosed] at hstanding
    exact ⟨fun j l hl => htended.parked j l hl (by simp [hclosed]), hstanding, by rw [hbridge],
      idle_of_closed hbridge⟩
  · rintro sink rfl
    obtain ⟨hsink, howns⟩ := htended.furnished.kept sink rfl
    exact ⟨hsink, howns, fun r' hcall =>
      ⟨((htended.call hcall).furnished.kept sink rfl).1, htended.clients hcall⟩⟩
  · rintro rfl
    refine ⟨?_, fun options host port r' => htended.renewed⟩
    intro sink hsink
    obtain ⟨hsome, howns⟩ := htended.furnished.own rfl
    have howned : r.bridge.ownsSink = true := by rw [howns, ← hsome, hsink, Option.isSome_some]
    exact ⟨howned, closes_shutDownBridge howned hsink, bridge_shutDownBridge htended.furnished⟩

end

/-- A bridge that has been opened and is about to connect, with the client of its sink connected. -/
def opening : Rig (Traced (Scripted Int)) Int where
  outside := ⟨{ clock := 0 }, []⟩
  stations := #[⟨{
    target := .of "10.0.0.2" 7000, enabled := true, phase := .connecting, enteredAt := 0
    backoff := .start 1 2 30, health := ⟨5, 0⟩, status := ⟨0, 0⟩ }, ⟨3, 1, defaultLineLimit⟩,
    .backend "overlay" 0⟩]
  clients := #[{ connected := true }]
  bridge := { sink := some (.backend "overlay" 0), ownsSink := true, station := some 0 }

/-- A bridge with a sink of its own making that is opened again while it is connected: the transport is
disconnected, and the sink is another. -/
theorem keeps_one_reopened :
    ∃ r : Rig (Traced (Scripted Int)) Int, Bridging none r ∧ r.bridge.station = some 1 ∧
      r.calls = [.build (.of "10.0.0.2" 7000) (.ok 0), .connect 0 (.ok true), .disconnect 0] ∧
      (∀ past, past <+: r.calls → (standing past).length ≤ 1) ∧
      Closes r r.shutDownBridge (.backend "overlay" 1) ∧ r.shutDownBridge.bridge = {} := by
  let options : BridgeOptions Int := {
    enabled := true
    target := .of "10.0.0.2" 7000
    notifyUrl := some "overlay"
    link := ⟨⟨3, 1, defaultLineLimit⟩, {}, 5, 0, .start 1 2 30⟩ }
  have hmade := Bridging.made ({ outside := ⟨{ clock := 0 }, []⟩ } : Rig (Traced (Scripted Int)) Int) rfl rfl
    rfl
  have hnothing : ∀ c ∈ ([] : List Call), c.Returns := by simp
  have hreturns : ∀ c ∈ [Call.build (.of "10.0.0.2" 7000) (.ok 0), .connect 0 (.ok true)], c.Returns := by
    simp [Call.Returns]
  have hopened := hmade.call (.opened options rfl none none)
  have hopening : Bridging none opening :=
    (hopened.call (.updated rfl hnothing)).elsewhere rfl rfl (by simp) (List.append_nil _).symm
  have hup := hopening.call (.updated rfl hreturns)
  have hrun := hup.call (.opened options rfl (some "10.0.0.3") none)
  obtain ⟨-, hatMostOne, -, -, hmakes⟩ := hrun.keeps_one
  obtain ⟨hcloses, -⟩ := hmakes rfl
  obtain ⟨-, hclosed, hdropped⟩ := hcloses (.backend "overlay" 1) rfl
  exact ⟨_, hrun, rfl, rfl, hatMostOne, hclosed, hdropped⟩

end Rig

end PeripheralLink

import PeripheralLink.Proofs.Wire.Lifetime
/-!
Opening a socket, whichever of the calls on the way fail, and in whatever way.  `Socket.opening` reads off the
socket what connecting with it comes to.

A failed connection leaves the transport without a socket, but not every socket is closed by then: one whose
set-up fails other than as the system does stays open behind the exception, and so does a listening socket unless
the system refuses to bind it or to have it listen.  `opening_outcome` says exactly when.
-/

namespace PeripheralLink

variable {τ : Type}

/-- The calls by which a listening socket is opened. -/
def listeningSteps (timed : Bool) : List OpeningStep :=
  .create :: .setOption .reuseAddress :: .bind :: .listen ::
    if timed then [.setTimeout, .readName] else [.readName]

namespace Socket

/-- What connecting with the socket comes to. -/
def opening (s : Socket τ) : Except Fault Bool :=
  match s.fault? .create, s.setUpFault? with
  | some fault, _ => if fault.isSystem then .ok false else .error fault
  | none, none => .ok true
  | none, some fault =>
    if fault.isSystem then
      match s.fault? .close with
      | none => .ok false
      | some other => .error other
    else .error fault

/-- The call that connects the socket does not close it. -/
def staysOpen (s : Socket τ) : Bool :=
  (s.fault? .create).isNone && (s.setUpFault?.isNone || s.breaksDown)

/-- The system refuses to bind the socket or to have it listen, whereupon it is closed. -/
def isWithdrawn (s : Socket τ) : Bool :=
  (s.fault? (.setOption .reuseAddress)).isNone && (s.firstFault? [.bind, .listen]).any Fault.isSystem

variable {s : Socket τ}

theorem opening_eq_true_iff : s.opening = .ok true ↔ s.fault? .create = none ∧ s.setUpFault? = none := by
  unfold opening
  cases s.fault? .create with
  | some fault => by_cases hsystem : fault.isSystem = true <;> simp [hsystem]
  | none =>
      cases s.setUpFault? with
      | none => simp
      | some fault => by_cases hsystem : fault.isSystem = true <;> cases s.fault? .close <;> simp [hsystem]

theorem opening_raises_iff : (∃ fault, s.opening = .error fault) ↔
    (s.fault? .create).any (fun fault => !fault.isSystem) = true ∨ s.fault? .create = none ∧
      (s.breaksDown = true ∨ s.setUpFault?.isSome = true ∧ (s.fault? .close).isSome = true) := by
  unfold opening breaksDown
  cases s.fault? .create with
  | some fault => by_cases hsystem : fault.isSystem = true <;> simp [hsystem]
  | none =>
      cases s.setUpFault? with
      | none => simp
      | some fault => by_cases hsystem : fault.isSystem = true <;> cases s.fault? .close <;> simp [hsystem]

theorem staysOpen_iff : s.staysOpen = true ↔
    s.opening = .ok true ∨ s.fault? .create = none ∧ s.breaksDown = true := by
  rw [opening_eq_true_iff, staysOpen]
  simp [and_or_left]

end Socket

namespace Tcp

variable {t t' : Tcp τ} {n n' : Network τ}

/-- Connecting comes to what the next socket says, and leaves the transport idle unless it succeeds.  The socket
is closed by then unless it says that it stays open. -/
theorem connect_opening {result : Except Fault Bool} (hclosed : t.connected = false)
    (h : t.connect n = (result, t', n')) :
    result = (n.coming.headD {}).opening ∧
      (result = .ok true →
        t' = { t with socket := some n.sockets.size, connected := true, buffer := {} }) ∧
      (result ≠ .ok true → t' = t.idle) ∧
      n.InTurn n' t.socket
        (if (n.coming.headD {}).staysOpen then some n.sockets.size else none) := by
  cases connects hclosed h with
  | refused hcreate =>
      have hfault := fault?_of_create hcreate
      have hcreated := (t.inTurn_release n).trans (Network.inTurn_create hcreate)
      refine ⟨by simp only [Socket.opening, hfault]; rfl, by simp, fun _ => rfl, ?_⟩
      rw [show (n.coming.headD {}).staysOpen = false by simp only [Socket.staysOpen, hfault]; rfl]
      exact hcreated.trans (Network.inTurn_report _ _ none)
  | uncreated hcreate hsystem =>
      have hfault := fault?_of_create hcreate
      refine ⟨by simp only [Socket.opening, hfault, hsystem]; rfl, by simp, fun _ => rfl, ?_⟩
      rw [show (n.coming.headD {}).staysOpen = false by simp only [Socket.staysOpen, hfault]; rfl]
      exact (t.inTurn_release n).trans (Network.inTurn_create hcreate)
  | opened hdials =>
      obtain ⟨rfl, hcreated, hset, -⟩ := hdials.outcome
      have hnone := Fault.raised_ok_iff.mp hset.symm
      refine ⟨by simp only [Socket.opening, hcreated, hnone], fun _ => rfl, by simp, ?_⟩
      rw [show (n.coming.headD {}).staysOpen = true by simp only [Socket.staysOpen, hcreated, hnone]; rfl]
      exact hdials.inTurn.trans (Network.inTurn_report _ _ _)
  | @withdrawn id text n₁ _ answer hdials hdiscard =>
      obtain ⟨-, hcreated, hset, hsocket⟩ := hdials.outcome
      have hfault := Fault.raised_error_iff.mp hset.symm
      have hanswer := (n₁.report (.connectFailed t.target text)).fst_discard id
      rw [hdiscard, show (n₁.report _).socket id = n.coming.headD {} from hsocket] at hanswer
      obtain rfl : answer = _ := hanswer
      refine ⟨?_, fun hok => ?_, fun _ => rfl, ?_⟩
      · simp only [Socket.opening, hcreated, hfault]
        cases (n.coming.headD {}).fault? .close <;> rfl
      · cases hclose : (n.coming.headD {}).fault? .close <;> rw [hclose] at hok <;> cases hok
      · rw [show (n.coming.headD {}).staysOpen = false by
          simp only [Socket.staysOpen, Socket.breaksDown, hcreated, hfault]; rfl]
        exact hdials.inTurn_withdrawn hdiscard
  | broken hdials hsystem =>
      obtain ⟨rfl, hcreated, hset, -⟩ := hdials.outcome
      have hfault := Fault.raised_error_iff.mp hset.symm
      refine ⟨by simp only [Socket.opening, hcreated, hfault, hsystem]; rfl, by simp, fun _ => rfl, ?_⟩
      rw [show (n.coming.headD {}).staysOpen = true by
        simp only [Socket.staysOpen, Socket.breaksDown, hcreated, hfault, Option.any_some, hsystem]; rfl]
      exact hdials.inTurn

end Tcp

namespace Network

variable {n n' : Network τ}

theorem inTurn_attemptAll (n : Network τ) (id : Nat) (calls : List (OpeningStep × SocketCall τ))
    (hcalls : ∀ c ∈ calls, c.2.prepares = true) (held : Option Nat) :
    ∃ n', n.attemptAll id calls = (Fault.raised ((n.socket id).firstFault? (calls.map Prod.fst)), n') ∧
      n.Notes n' ∧ n.InTurn n' held held := by
  obtain ⟨n', hcall, hnotes⟩ := n.attemptAll_outcome id calls
  have hprepares := n.prepares_attemptAll id calls hcalls
  rw [hcall] at hprepares
  exact ⟨n', hcall, hnotes, hprepares.inTurn held⟩

/-- The timeout and the name of a socket that listens can still fail, and then it stays open. -/
theorem announce_outcome {id : Nat} {host : Value} {timeout : Option τ} {result : Except Fault Nat}
    (h : n.announce id host timeout = (result, n')) :
    ((∃ fault, result = .error fault) ↔ ((n.socket id).firstFault?
        (if timeout.isSome then [.setTimeout, .readName] else [.readName])).isSome = true) ∧
      (∀ id', result = .ok id' → id' = id) ∧ n.InTurn n' (some id) (some id) := by
  generalize hsocket : n.socket id = s
  unfold announce at h
  obtain ⟨n₂, htimed, hnotes, hturn⟩ := n.inTurn_attemptAll id
    (timeout.toList.map fun time => (.setTimeout, .setTimeout id time)) (by simp [SocketCall.prepares]) (some id)
  have hsteps : (if timeout.isSome then [.setTimeout, .readName] else [.readName]) =
      (timeout.toList.map fun _ => OpeningStep.setTimeout) ++ [.readName] := by cases timeout <;> rfl
  rw [List.map_map, hsocket] at htimed
  rw [htimed] at h
  rw [hsteps, Socket.firstFault?_append]
  cases hfault : s.firstFault? (timeout.toList.map fun _ => OpeningStep.setTimeout) with
  | some fault =>
      simp only [Function.comp_def, hfault, Fault.raised] at h
      cases h
      exact ⟨by simp, by simp, hturn⟩
  | none =>
      simp only [Function.comp_def, hfault, Fault.raised, hnotes.socket, hsocket] at h
      rw [Option.none_or, Socket.firstFault?_singleton]
      cases hname : s.fault? .readName with
      | some fault =>
          rw [hname] at h
          cases h
          exact ⟨by simp, by simp, hturn⟩
      | none =>
          rw [hname] at h
          cases h
          exact ⟨by simp, fun id' hid => (Except.ok.inj hid).symm, hturn.trans (n₂.inTurn_report _ _)⟩

/-- Listening fails as the first of its calls that does.  The socket is closed again only if the system refuses
to bind it or to have it listen. -/
theorem listenOn_opening {target : Target} {backlog : Value} {timeout : Option τ} {result : Except Fault Nat}
    (h : n.listenOn target backlog timeout = (result, n')) {next : Socket τ}
    (hnext : n.coming.headD {} = next) :
    ((∃ fault, result = .error fault) ↔ (next.firstFault? (listeningSteps timeout.isSome)).isSome = true) ∧
      (∀ id, result = .ok id → n.InTurn n' none (some id)) ∧
      ∀ fault, result = .error fault → n.InTurn n' none
        (if next.fault? .create = none ∧ next.isWithdrawn = false then some n.sockets.size else none) := by
  have hsteps : listeningSteps timeout.isSome = .create :: .setOption .reuseAddress :: ([.bind, .listen] ++
      if timeout.isSome then [.setTimeout, .readName] else [.readName]) := rfl
  rw [hsteps, Socket.firstFault?_cons, Socket.firstFault?_cons, Socket.firstFault?_append, Socket.isWithdrawn]
  subst hnext
  generalize hnext : n.coming.headD {} = next
  unfold listenOn at h
  cases hcreate : n.create with
  | mk created n₁ =>
      have hcreated := inTurn_create hcreate
      rw [hcreate] at h
      cases created with
      | error fault =>
          cases h
          rw [← hnext, create_error hcreate]
          exact ⟨by simp, nofun, fun _ _ => by simpa using hcreated⟩
      | ok id =>
          obtain ⟨rfl, hfails, hsocket⟩ := create_ok hcreate
          rw [hnext] at hfails hsocket
          rw [hfails]
          obtain ⟨n₂, hreuse, hnotes⟩ := n₁.attempt_outcome n.sockets.size (.setOption .reuseAddress)
            (.setOption n.sockets.size .reuseAddress 1)
          have hset : n₁.Prepares (n₁.attempt n.sockets.size (.setOption .reuseAddress)
            (.setOption n.sockets.size .reuseAddress 1)).2 := n₁.prepares_attempt _ _ rfl
          obtain ⟨n₃, hbind, hnotes', hturn⟩ := n₂.inTurn_attemptAll n.sockets.size
            [(.bind, .bind _ target), (.listen, .listen _ backlog)] (by simp [SocketCall.prepares])
            (some n.sockets.size)
          rw [hreuse] at hset
          rw [hsocket] at hreuse
          rw [hnotes.socket, hsocket] at hbind
          have hreused := hcreated.trans (hset.inTurn (some n.sockets.size))
          dsimp only at h
          rw [hreuse] at h
          cases hoption : next.fault? (.setOption .reuseAddress) with
          | some fault =>
              rw [hoption] at h
              cases h
              exact ⟨by simp, nofun, fun _ _ => by simpa using hreused⟩
          | none =>
              rw [hoption] at h
              dsimp only [Fault.raised] at h
              rw [hbind] at h
              have hbound := hreused.trans hturn
              cases hrefused : next.firstFault? [.bind, .listen] with
              | none =>
                  simp only [List.map_cons, List.map_nil, hrefused, Fault.raised] at h
                  obtain ⟨hraises, hid, hnamed⟩ := announce_outcome h
                  rw [hnotes'.socket, hnotes.socket, hsocket] at hraises
                  have hopen := hbound.trans hnamed
                  refine ⟨by simpa using hraises, fun id hok => ?_, fun fault _ => by simpa using hopen⟩
                  rw [hid id hok]
                  exact hopen
              | some fault =>
                  simp only [List.map_cons, List.map_nil, hrefused, Fault.raised] at h
                  by_cases hsystem : fault.isSystem = true
                  · -- the socket is closed; should that fail, it is this failure that is raised
                    have hclosed := hbound.trans (n₃.inTurn_discard n.sockets.size)
                    rw [if_pos hsystem] at h
                    cases hclose : n₃.discard n.sockets.size with
                    | mk answer n₄ =>
                        rw [hclose] at h hclosed
                        cases answer <;> cases h <;>
                          exact ⟨by simp, nofun, fun _ _ => by simpa [hsystem] using hclosed⟩
                  · rw [if_neg hsystem] at h
                    cases h
                    exact ⟨by simp, nofun, fun _ _ => by simpa [hsystem] using hbound⟩

theorem InTurn.opens_since {held held' : Option Nat} (h : n.InTurn n' held held') :
    (n.since n').foldl WireEntry.opens held.toList = held'.toList := by
  obtain ⟨entries, hadds, hturn⟩ := h
  rw [hadds.since]
  exact hturn.foldl_opens

end Network

/-- How opening a socket ends, whatever is in store for it.

Connecting succeeds exactly if the next socket is created and set up.  It raises exactly if creating the socket
fails other than as the system does, or its set-up does so, or its set-up fails and then its closing.  Unless it
succeeds the transport is idle; and the socket is closed by then, except for one whose set-up fails other than as
the system does.

Listening raises exactly if one of the calls fails; and the socket is closed by then only if it is the system
that refuses to bind it or to have it listen. -/
theorem opening_outcome (t : Tcp τ) (n : Network τ) {next : Socket τ} (hnext : n.coming.headD {} = next) :
    (∀ result t' n', t.connected = false → t.connect n = (result, t', n') →
      (result = .ok true ↔ next.fault? .create = none ∧ next.setUpFault? = none) ∧
      ((∃ fault, result = .error fault) ↔
        (next.fault? .create).any (fun fault => !fault.isSystem) = true ∨ next.fault? .create = none ∧
          (next.breaksDown = true ∨
            next.setUpFault?.isSome = true ∧ (next.fault? .close).isSome = true)) ∧
      (result ≠ .ok true → t' = t.idle) ∧
      (n.since n').foldl WireEntry.opens t.socket.toList =
        if result = .ok true ∨ next.fault? .create = none ∧ next.breaksDown = true then
          [n.sockets.size] else []) ∧
    ∀ target backlog timeout result n', n.listenOn target backlog timeout = (result, n') →
      ((∃ fault, result = .error fault) ↔
        (next.firstFault? (listeningSteps timeout.isSome)).isSome = true) ∧
      (∀ id, result = .ok id → openSockets (n.since n') = [id]) ∧
      ∀ fault, result = .error fault → openSockets (n.since n') =
        if next.fault? .create = none ∧ next.isWithdrawn = false then [n.sockets.size] else [] := by
  subst hnext
  refine ⟨fun result t' n' hclosed hcall => ?_, fun target backlog timeout result n' hcall => ?_⟩
  · obtain ⟨rfl, -, hidle, hheld⟩ := Tcp.connect_opening hclosed hcall
    refine ⟨Socket.opening_eq_true_iff, Socket.opening_raises_iff, hidle, ?_⟩
    rw [hheld.opens_since, apply_ite Option.toList]
    simp only [Socket.staysOpen_iff, Option.toList_some, Option.toList_none]
  · obtain ⟨hraises, hlistens, hfails⟩ := Network.listenOn_opening hcall rfl
    refine ⟨hraises, fun id hid => (hlistens id hid).opens_since, fun fault hfault => ?_⟩
    rw [openSockets, ← Option.toList_none, (hfails fault hfault).opens_since, apply_ite Option.toList]
    rfl

/-- A host whose name cannot be encoded: connecting raises, the transport has no socket, and the one that was
created is never closed.  Listening on a socket that refuses its option ends in the same way. -/
theorem opening_outcome_unencodable :
    ∃ (t t' : Tcp Int) (n n' listening after : Network Int) (fault failure : Fault),
      n.coming = [{ connectFault := some "label empty or too long" }] ∧ t.connected = false ∧
      t.connect n = (.error fault, t', n') ∧ fault.text = "label empty or too long" ∧ t'.socket = none ∧
      (n.since n').foldl WireEntry.opens t.socket.toList = [0] ∧
      listening.coming = [{ optionError := some "SO_REUSEADDR" }] ∧
      listening.listenOn t.target (.int 5) none = (.error failure, after) ∧
      openSockets (listening.since after) = [0] := by
  let t : Tcp Int := ⟨⟨.text "a..b", .int 7000⟩, 3, 1, defaultLineLimit, none, false, {}⟩
  let n : Network Int := { clock := 0, coming := [{ connectFault := some "label empty or too long" }] }
  let listening : Network Int := { clock := 0, coming := [{ optionError := some "SO_REUSEADDR" }] }
  obtain ⟨-, -, hidle, hopen⟩ := (opening_outcome t n rfl).1 _ _ _ rfl rfl
  obtain ⟨-, -, hleft⟩ := (opening_outcome t listening rfl).2 t.target (.int 5) none _ _ rfl
  exact ⟨t, _, n, _, listening, _, _, _, rfl, rfl, rfl, rfl, congrArg Tcp.socket (hidle nofun), hopen, rfl,
    rfl, hleft _ rfl⟩

end PeripheralLink

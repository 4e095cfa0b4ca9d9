import PeripheralLink.Proofs.Wire.Calls
/-!
How the calls on the way to an open socket end, read off the socket that is to be opened.  Every call of an
opening looks only at its own entry in `Socket.fault?`, so several calls in order end as the first of them that
fails (`attemptAll_outcome`), and the set-up of a connection ends as `Socket.setUpFault?` says (`fst_setUp`).
-/

namespace PeripheralLink

variable {τ : Type}

/-- A call ends by raising its failure, if it has one. -/
def Fault.raised : Option Fault → Except Fault Unit
  | none => .ok ()
  | some fault => .error fault

theorem Fault.raised_ok_iff {fault? : Option Fault} : Fault.raised fault? = .ok () ↔ fault? = none := by
  cases fault? <;> simp [raised]

theorem Fault.raised_error_iff {fault? : Option Fault} {fault : Fault} :
    Fault.raised fault? = .error fault ↔ fault? = some fault := by
  cases fault? <;> simp [raised]

namespace Socket

def firstFault? (s : Socket τ) (steps : List OpeningStep) : Option Fault := steps.findSome? s.fault?

/-- The failure that setting up a connection comes to.  Details of the keepalive that are refused or unknown
are done without. -/
def setUpFault? (s : Socket τ) : Option Fault :=
  (s.firstFault? [.setTimeout, .connect, .setOption .noDelay, .setOption .keepAlive]).or
    (((s.firstFault? [.setOption .keepIdle, .setOption .keepInterval, .setOption .keepCount]).filter
        fun fault => !fault.isDispensable).or
      (s.fault? .setBlocking))

/-- Where the set-up of a connection fails, the system has refused a call. -/
def FailsAsSystem (s : Socket τ) : Prop := ∀ fault, s.setUpFault? = some fault → fault.isSystem = true

/-- The set-up of a connection fails, and not because the system has refused a call. -/
def breaksDown (s : Socket τ) : Bool := s.setUpFault?.any fun fault => !fault.isSystem

theorem firstFault?_cons (s : Socket τ) (step : OpeningStep) (steps : List OpeningStep) :
    s.firstFault? (step :: steps) = (s.fault? step).or (s.firstFault? steps) := by
  rw [firstFault?, List.findSome?_cons]
  cases s.fault? step <;> rfl

theorem firstFault?_append (s : Socket τ) (steps later : List OpeningStep) :
    s.firstFault? (steps ++ later) = (s.firstFault? steps).or (s.firstFault? later) :=
  List.findSome?_append

theorem firstFault?_singleton (s : Socket τ) (step : OpeningStep) : s.firstFault? [step] = s.fault? step := by
  rw [firstFault?_cons]
  exact Option.or_none

theorem failsAsSystem_iff {s : Socket τ} : s.FailsAsSystem ↔ s.breaksDown = false := by
  unfold FailsAsSystem breaksDown
  cases s.setUpFault? <;> simp

end Socket

namespace Network

/-- A socket that is created is the next one, under the next number. -/
theorem create_ok {n n' : Network τ} {id : Nat} (h : n.create = (.ok id, n')) : id = n.sockets.size ∧
    (n.coming.headD {}).fault? .create = none ∧ n'.socket id = n.coming.headD {} := by
  unfold create at h
  dsimp only at h
  split at h
  · cases h
  · cases h
    exact ⟨rfl, ‹_›, by simp [socket, record]⟩

theorem create_error {n n' : Network τ} {fault : Fault} (h : n.create = (.error fault, n')) :
    (n.coming.headD {}).fault? .create = some fault := by
  unfold create at h
  dsimp only at h
  split at h
  · cases h
    assumption
  · cases h

theorem attempt_outcome (n : Network τ) (id : Nat) (step : OpeningStep) (call : SocketCall τ) :
    ∃ n', n.attempt id step call = (Fault.raised ((n.socket id).fault? step), n') ∧ n.Notes n' := by
  unfold attempt
  cases (n.socket id).fault? step with
  | none => exact ⟨_, rfl, n.notes_record call⟩
  | some fault =>
      cases fault with
      | unknownOption name => exact ⟨n, rfl, .refl n⟩
      | _ => exact ⟨_, rfl, n.notes_record call⟩

/-- Calls in order fail as the first of them that fails. -/
theorem attemptAll_outcome (n : Network τ) (id : Nat) (calls : List (OpeningStep × SocketCall τ)) :
    ∃ n', n.attemptAll id calls = (Fault.raised ((n.socket id).firstFault? (calls.map Prod.fst)), n') ∧
      n.Notes n' := by
  induction calls generalizing n with
  | nil => exact ⟨n, rfl, .refl n⟩
  | cons first rest ih =>
      obtain ⟨step, call⟩ := first
      obtain ⟨n₁, hfirst, hnotes⟩ := n.attempt_outcome id step call
      rw [attemptAll, hfirst, List.map_cons, Socket.firstFault?_cons]
      cases (n.socket id).fault? step with
      | some fault => exact ⟨n₁, rfl, hnotes⟩
      | none =>
          obtain ⟨n₂, hrest, hnotes'⟩ := ih n₁
          rw [hnotes.socket] at hrest
          exact ⟨n₂, hrest, hnotes.trans hnotes'⟩

theorem fst_discard (n : Network τ) (id : Nat) :
    (n.discard id).1 = Fault.raised ((n.socket id).fault? .close) := by
  have hsame : (n.record (.close id)).socket id = n.socket id := rfl
  unfold discard
  dsimp only
  rw [hsame]
  cases (n.socket id).fault? .close <;> rfl

end Network

namespace Tcp

/-- The set-up of a connection fails as the socket has it. -/
theorem fst_setUp (t : Tcp τ) (id : Nat) (n : Network τ) :
    (t.setUp id n).1 = Fault.raised (n.socket id).setUpFault? := by
  obtain ⟨n₁, hdial, hnotes⟩ := n.attemptAll_outcome id ((.setTimeout, .setTimeout id t.connectTimeout) ::
    (.connect, .connect id t.target) :: optionCalls id keepAliveOptions)
  obtain ⟨n₂, hdetails, hnotes'⟩ := n₁.attemptAll_outcome id (optionCalls id keepAliveDetails)
  have hsame := (hnotes.trans hnotes').socket id
  rw [hnotes.socket] at hdetails
  have hblocking {n' : Network τ} (hn' : n'.socket id = n.socket id) :
      (n'.attempt id .setBlocking (.setBlocking id false)).1 =
        Fault.raised ((n.socket id).fault? .setBlocking) := by
    obtain ⟨n₃, hlast, -⟩ := n'.attempt_outcome id .setBlocking (.setBlocking id false)
    rw [hlast, hn']
  rw [setUp, hdial, Socket.setUpFault?]
  simp only [optionCalls, keepAliveOptions, keepAliveDetails, List.map_cons, List.map_nil] at hdetails ⊢
  cases (n.socket id).firstFault? [.setTimeout, .connect, .setOption .noDelay, .setOption .keepAlive] with
  | some fault => rfl
  | none =>
      simp only [Fault.raised, Option.none_or]
      rw [hdetails]
      cases (n.socket id).firstFault? [.setOption .keepIdle, .setOption .keepInterval, .setOption .keepCount] with
      | none => exact hblocking hsame
      | some fault =>
          simp only [Fault.raised]
          by_cases hdone : fault.isDispensable = true
          · rw [if_pos hdone, Option.filter_some_neg (by simpa using hdone)]
            exact hblocking hsame
          · rw [if_neg hdone, Option.filter_some_pos (by simpa using hdone)]
            rfl

/-- A socket that has been set up is the next one, under the next number, and its set-up has ended as it has it. -/
theorem Dials.outcome {t : Tcp τ} {n n' : Network τ} {id : Nat} {outcome : Except Fault Unit}
    (h : t.Dials n id outcome n') : id = n.sockets.size ∧ (n.coming.headD {}).fault? .create = none ∧
      outcome = Fault.raised (n.coming.headD {}).setUpFault? ∧ n'.socket id = n.coming.headD {} := by
  obtain ⟨hcreate, hset⟩ := h
  rename_i n₁
  have hreleased := t.notes_release n
  obtain ⟨hid, hcreated, hsocket⟩ := Network.create_ok hcreate
  have houtcome := t.idle.fst_setUp id n₁
  have hnotes := (t.idle.prepares_setUp n₁ id).notes
  rw [hreleased.sockets] at hid
  rw [hreleased.coming] at hcreated hsocket
  rw [hset, hsocket] at houtcome
  rw [hset] at hnotes
  exact ⟨hid, hcreated, houtcome, (hnotes.socket id).trans hsocket⟩

/-- Where no socket could be created, the next one has it so. -/
theorem fault?_of_create {t : Tcp τ} {n n' : Network τ} {fault : Fault}
    (h : (t.release n).2.create = (.error fault, n')) :
    (n.coming.headD {}).fault? .create = some fault := by
  rw [← (t.notes_release n).coming]
  exact Network.create_error h

end Tcp

end PeripheralLink

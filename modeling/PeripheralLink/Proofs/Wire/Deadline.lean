import Mathlib.Algebra.Order.Ring.Int
import PeripheralLink.Proofs.Wire.Opening
/-!
The two loops of a socket against the clock.  `Socket.readLine` and `Socket.writeAll` are cut off after a
number of rounds that is read off the schedule; here the same passes are repeated without a bound.  Every pass
after which such a loop goes on takes something off the schedule, or brings the clock to the deadline, so the
loop ends by itself, and it ends before the rounds are used up: what the bounded loops give is what the
unbounded ones give.

The clock moves in waiting only, never past the deadline.  `Tcp.InUse.in_time` draws the conclusions for the
calls of a transport.
-/

namespace PeripheralLink

section

variable {σ ρ : Type} {pass : σ → ρ ⊕ σ} {result : ρ} {passes : Nat} {s : σ}

/-- The loop that repeats a pass until there is a result ends with this one after so many passes. -/
inductive EndsAfter (pass : σ → ρ ⊕ σ) (result : ρ) : Nat → σ → Prop
  | last {s : σ} (h : pass s = .inl result) : EndsAfter pass result 1 s
  | next {passes : Nat} {s s' : σ} (h : pass s = .inr s') (later : EndsAfter pass result passes s') :
      EndsAfter pass result (passes + 1) s

/-- A loop ends if every pass after which it goes on costs something. -/
theorem EndsAfter.of_cost (cost : σ → Nat) (hcost : ∀ s s', pass s = .inr s' → cost s' < cost s) (s : σ) :
    ∃ result passes, EndsAfter pass result passes s ∧ passes ≤ cost s + 1 := by
  induction hbound : cost s using Nat.strong_induction_on generalizing s with
  | _ bound ih =>
      cases hpass : pass s with
      | inl result => exact ⟨result, 1, .last hpass, Nat.le_add_left 1 bound⟩
      | inr s' =>
          have hless := hcost s s' hpass
          obtain ⟨result, passes, hends, hpasses⟩ := ih (cost s') (hbound ▸ hless) s' rfl
          exact ⟨result, passes + 1, .next hpass hends, by omega⟩

/-- What every pass keeps holds when the last one is made. -/
theorem EndsAfter.keeps {inv : σ → Prop} (h : EndsAfter pass result passes s)
    (hstep : ∀ s s', inv s → pass s = .inr s' → inv s') (hstart : inv s) :
    ∃ last, inv last ∧ pass last = .inl result := by
  induction h with
  | last hlast => exact ⟨_, hstart, hlast⟩
  | next hpass _ ih => exact ih (hstep _ _ hstart hpass)

end

section

variable {τ : Type} [LinearOrder τ]

/-- Whether there is time left: one wait can use it up. -/
def timeLeft (deadline clock : τ) : Nat := if clock < deadline then 1 else 0

/-- A loop whose passes do not go past the deadline ends by then, or at the time at which it begins. -/
theorem EndsAfter.in_time {σ ρ : Type} {pass : σ → ρ ⊕ σ} {result : ρ} {passes : Nat} {s : σ} {deadline : τ}
    (h : EndsAfter pass result passes s) (clock : σ → τ)
    (hstep : ∀ s s', pass s = .inr s' → clock s' = clock s ∨ clock s' ≤ deadline) :
    ∃ last, clock last ≤ max (clock s) deadline ∧ pass last = .inl result := by
  refine h.keeps (fun s₁ s₂ hbefore hpass => ?_) (le_max_left (clock s) deadline)
  rcases hstep s₁ s₂ hpass with hsame | hle
  · exact hsame ▸ hbefore
  · exact le_max_of_le_right hle

theorem timeLeft_le (deadline clock : τ) : timeLeft deadline clock ≤ 1 := by
  unfold timeLeft
  split <;> omega

/-- A wait, for which the schedule offered `length` passes and then `length'`, does not go past the deadline.
It costs something if something was taken off the schedule before it, or if there is something to wait for. -/
theorem cost_of_wait {τ : Type} [Ring τ] [LinearOrder τ] [IsStrictOrderedRing τ] {deadline clock clock' : τ}
    {length length' : Nat} {waits : Prop} (hleft : 0 < deadline - clock)
    (h : length' ≤ length ∧ clock' ≤ clock + (deadline - clock) ∧
      (waits → length' < length ∨ clock' = clock + (deadline - clock))) :
    clock' ≤ deadline ∧ ∀ before, length < before ∨ length ≤ before ∧ waits →
      length' + timeLeft deadline clock' < before + timeLeft deadline clock := by
  rw [add_sub_cancel] at h
  obtain ⟨hlength, hclock, hwaits⟩ := h
  have hnow : timeLeft deadline clock = 1 := if_pos (sub_pos.mp hleft)
  have hthen := timeLeft_le deadline clock'
  refine ⟨hclock, fun before hbefore => ?_⟩
  rcases hbefore with hless | ⟨hle, hfirst⟩
  · omega
  · rcases hwaits hfirst with hless | hpassed
    · omega
    · have hover : timeLeft deadline clock' = 0 := if_neg (hpassed ▸ lt_irrefl _)
      omega

end

/-- A line that reaches the bound has the rest of it skipped. -/
theorem LineBuffer.discarding_of_overflow {limit : Int} {buffer buffer' : LineBuffer} {b : UInt8}
    (h : buffer.push limit b = (buffer', .overflow)) : buffer'.discarding = true := by
  unfold LineBuffer.push at h
  dsimp only at h
  split at h
  · have hstep := congrArg Prod.snd h
    cases hdiscarding : buffer.discarding <;> simp [hdiscarding] at hstep
  · split at h
    · exact (Prod.mk.inj h).1 ▸ rfl
    · simp at h

/-- The passes of `Socket.readLine` that an entry of the schedule can take. -/
def Arrival.passes {τ : Type} : Arrival τ → Nat
  | data bytes => bytes.length + 1
  | _ => 1

/-- The passes that a schedule can take. -/
def Arrival.allPasses {τ : Type} (arrivals : List (Arrival τ)) : Nat := (arrivals.map Arrival.passes).sum

structure Reader (τ : Type) where
  socket : Socket τ
  clock : τ
  buffer : LineBuffer

namespace Reader

section

variable {τ : Type} [Zero τ] [Add τ] [Sub τ] [LE τ] [DecidableLE τ]

def stop (r : Reader τ) (ending : Socket.LineEnd) : Socket.LineEnd × Socket τ × τ × LineBuffer :=
  (ending, r.socket, r.clock, r.buffer)

def wait (deadline : τ) (r : Reader τ) : (Socket.LineEnd × Socket τ × τ × LineBuffer) ⊕ Reader τ :=
  if deadline - r.clock ≤ 0 then .inl (r.stop .expired)
  else
    let (socket, clock) := r.socket.awaitArrival (deadline - r.clock) r.clock
    .inr { r with socket, clock }

/-- One pass of reading a line. -/
def pass (limit : Int) (deadline : τ) (r : Reader τ) :
    (Socket.LineEnd × Socket τ × τ × LineBuffer) ⊕ Reader τ :=
  match r.socket.receive with
  | (.blocked, socket) => wait deadline { r with socket }
  | (.interrupted, socket) => wait deadline { r with socket }
  | (.ended, socket) => .inl (stop { r with socket } .closed)
  | (.failed text, socket) => .inl (stop { r with socket } (.failed text))
  | (.byte b, socket) =>
    match r.buffer.push limit b with
    | (buffer, .complete line) => .inl (stop { r with socket, buffer } (.line line))
    | (buffer, .overflow) => .inl (stop { r with socket, buffer } .overflow)
    | (buffer, .partialLine) => .inr { r with socket, buffer }
    | (buffer, .resumed) => .inr { r with socket, buffer }

variable {limit : Int} {deadline : τ}

theorem readLine_succ (limit : Int) (deadline : τ) (rounds : Nat) (r : Reader τ) :
    r.socket.readLine limit deadline (rounds + 1) r.clock r.buffer =
      match r.pass limit deadline with
      | .inl result => result
      | .inr next => next.socket.readLine limit deadline rounds next.clock next.buffer := by
  rw [Socket.readLine, pass]
  cases r.socket.receive with
  | mk received socket =>
      cases received with
      | blocked =>
          simp only [wait]
          split <;> rfl
      | interrupted =>
          simp only [wait]
          split <;> rfl
      | ended => rfl
      | failed text => rfl
      | byte b =>
          dsimp only
          cases r.buffer.push limit b with
          | mk buffer step => cases step <;> rfl

/-- With rounds enough, the bounded loop gives what the unbounded one gives. -/
theorem readLine_of_ends {result : Socket.LineEnd × Socket τ × τ × LineBuffer} {passes rounds : Nat}
    {r : Reader τ} (h : EndsAfter (pass limit deadline) result passes r) (hrounds : passes ≤ rounds) :
    r.socket.readLine limit deadline rounds r.clock r.buffer = result := by
  induction h generalizing rounds with
  | last hlast =>
      obtain ⟨rounds, rfl⟩ := Nat.exists_eq_add_of_le' hrounds
      rw [readLine_succ, hlast]
  | next hpass _ ih =>
      obtain ⟨rounds, rfl⟩ := Nat.exists_eq_add_of_le' (Nat.le_of_add_left_le hrounds)
      rw [readLine_succ, hpass]
      exact ih (Nat.le_of_succ_le_succ hrounds)

end

end Reader

/-- The schedule starts with something to wait for. -/
def Arrival.Waits {τ : Type} : List (Arrival τ) → Prop
  | [] => True
  | pause _ :: _ => True
  | waitFailure :: _ => True
  | _ => False

namespace Socket

section

variable {τ : Type}

/-- Reading a byte, or being interrupted, takes something off the schedule; where nothing has arrived there
is something to wait for. -/
theorem receiveFrom_spec (arrivals : List (Arrival τ)) :
    Arrival.allPasses (receiveFrom arrivals).2 ≤ Arrival.allPasses arrivals ∧
      match (receiveFrom arrivals).1 with
      | .byte _ => Arrival.allPasses (receiveFrom arrivals).2 < Arrival.allPasses arrivals
      | .interrupted => Arrival.allPasses (receiveFrom arrivals).2 < Arrival.allPasses arrivals
      | .blocked => Arrival.Waits (receiveFrom arrivals).2
      | _ => True := by
  fun_induction receiveFrom arrivals with
  | case2 rest ih =>
      have hmore : Arrival.allPasses rest < Arrival.allPasses (.data [] :: rest) := by
        simp [Arrival.allPasses, Arrival.passes]
      obtain ⟨hle, hspec⟩ := ih
      refine ⟨hle.trans hmore.le, ?_⟩
      cases hreceived : (receiveFrom rest).1 with
      | byte b => exact hle.trans_lt hmore
      | interrupted => exact hle.trans_lt hmore
      | blocked =>
          rw [hreceived] at hspec
          exact hspec
      | _ => trivial
  | _ => simp [Arrival.allPasses, Arrival.passes, Arrival.Waits]

/-- The rounds that reading is given are more than the schedule can take. -/
theorem readRounds_eq (s : Socket τ) : s.readRounds = Arrival.allPasses s.arrivals + idleRounds := by
  rw [readRounds]
  induction s.arrivals with
  | nil => simp [Arrival.allPasses]
  | cons first rest ih =>
      rw [List.map_cons, List.foldr_cons, ih, Arrival.allPasses, Arrival.allPasses, List.map_cons,
        List.sum_cons, Nat.add_assoc]
      cases first <;> rfl

end

variable {τ : Type} [Ring τ] [LinearOrder τ] [IsStrictOrderedRing τ]

/-- Waiting ends within its limit.  It takes an entry off the schedule, or lasts as long as it may, if there is
something to wait for. -/
theorem awaitArrival_spec (s : Socket τ) {limit : τ} (clock : τ) (hlimit : 0 < limit) :
    Arrival.allPasses (s.awaitArrival limit clock).1.arrivals ≤ Arrival.allPasses s.arrivals ∧
      (s.awaitArrival limit clock).2 ≤ clock + limit ∧
      (Arrival.Waits s.arrivals →
        Arrival.allPasses (s.awaitArrival limit clock).1.arrivals < Arrival.allPasses s.arrivals ∨
          (s.awaitArrival limit clock).2 = clock + limit) := by
  have hnow : clock ≤ clock + limit := le_add_of_nonneg_right hlimit.le
  unfold awaitArrival
  split
  · exact ⟨le_rfl, le_rfl, fun _ => .inr rfl⟩
  · rename_i rest hfirst
    have hless : Arrival.allPasses rest < Arrival.allPasses s.arrivals := by
      simp [hfirst, Arrival.allPasses, Arrival.passes]
    exact ⟨hless.le, hnow, fun _ => .inl hless⟩
  · rename_i time rest hfirst
    have hless : Arrival.allPasses rest < Arrival.allPasses s.arrivals := by
      simp [hfirst, Arrival.allPasses, Arrival.passes]
    split
    · rename_i htime
      exact ⟨hless.le, add_le_add_right htime clock, fun _ => .inl hless⟩
    · exact ⟨by rw [hfirst]; exact le_rfl, le_rfl, fun _ => .inr rfl⟩
  · refine ⟨le_rfl, hnow, fun hwaits => ?_⟩
    unfold Arrival.Waits at hwaits
    split at hwaits <;> simp_all

end Socket

namespace Reader

variable {τ : Type} [Ring τ] [LinearOrder τ] [IsStrictOrderedRing τ] {limit : Int} {deadline : τ}
  {r r' : Reader τ}

/-- What reading can still cost: the passes that the schedule can take, and one wait. -/
def cost (deadline : τ) (r : Reader τ) : Nat :=
  Arrival.allPasses r.socket.arrivals + timeLeft deadline r.clock

/-- A wait does not go past the deadline.  It costs something if something was taken off the schedule before
it, or if there is something to wait for. -/
theorem wait_goes_on (h : r.wait deadline = .inr r') :
    r'.clock ≤ deadline ∧ ∀ length, Arrival.allPasses r.socket.arrivals < length ∨
      Arrival.allPasses r.socket.arrivals ≤ length ∧ Arrival.Waits r.socket.arrivals →
        r'.cost deadline < length + timeLeft deadline r.clock := by
  unfold wait at h
  split at h
  · cases h
  · rename_i hleft
    have hlimit : 0 < deadline - r.clock := not_le.mp hleft
    obtain rfl := Sum.inr.inj h
    exact cost_of_wait hlimit (r.socket.awaitArrival_spec r.clock hlimit)

/-- Every pass after which reading goes on costs something, and none goes past the deadline. -/
theorem pass_goes_on (h : r.pass limit deadline = .inr r') :
    r'.cost deadline < r.cost deadline ∧ (r'.clock = r.clock ∨ r'.clock ≤ deadline) := by
  obtain ⟨hpasses, hreceived⟩ := Socket.receiveFrom_spec r.socket.arrivals
  unfold pass Socket.receive at h
  cases hfirst : receiveFrom r.socket.arrivals with
  | mk received arrivals =>
      rw [hfirst] at h hpasses hreceived
      cases received with
      | blocked =>
          obtain ⟨hclock, hcost⟩ := wait_goes_on h
          exact ⟨hcost _ (.inr ⟨hpasses, hreceived⟩), .inr hclock⟩
      | interrupted =>
          obtain ⟨hclock, hcost⟩ := wait_goes_on h
          exact ⟨hcost _ (.inl hreceived), .inr hclock⟩
      | ended => cases h
      | failed text => cases h
      | byte b =>
          dsimp only at h
          cases hpush : r.buffer.push limit b with
          | mk buffer step =>
              rw [hpush] at h
              cases step with
              | complete line => cases h
              | overflow => cases h
              | _ =>
                  obtain rfl := Sum.inr.inj h
                  exact ⟨Nat.add_lt_add_right hreceived _, .inl rfl⟩

/-- Reading ends at the time of its last pass: with the deadline passed, for want of bytes; with what
follows being skipped, if the line reached the bound. -/
theorem pass_ends {ending : Socket.LineEnd} {s' : Socket τ} {clock' : τ} {buffer' : LineBuffer}
    (h : r.pass limit deadline = .inl (ending, s', clock', buffer')) :
    clock' = r.clock ∧ (ending = .expired → deadline ≤ clock') ∧
      (ending = .overflow → buffer'.discarding = true) := by
  have hexpired {socket : Socket τ}
      (h : wait deadline { r with socket } = .inl (ending, s', clock', buffer')) :
      clock' = r.clock ∧ (ending = .expired → deadline ≤ clock') ∧
        (ending = .overflow → buffer'.discarding = true) := by
    unfold wait at h
    split at h
    · rename_i hpassed
      cases h
      exact ⟨rfl, fun _ => sub_nonpos.mp hpassed, nofun⟩
    · cases h
  unfold pass at h
  cases hfirst : r.socket.receive with
  | mk received socket =>
      rw [hfirst] at h
      cases received with
      | blocked => exact hexpired h
      | interrupted => exact hexpired h
      | ended =>
          cases h
          exact ⟨rfl, nofun, nofun⟩
      | failed text =>
          cases h
          exact ⟨rfl, nofun, nofun⟩
      | byte b =>
          dsimp only at h
          cases hpush : r.buffer.push limit b with
          | mk buffer step =>
              rw [hpush] at h
              cases step with
              | complete line =>
                  cases h
                  exact ⟨rfl, nofun, nofun⟩
              | overflow =>
                  cases h
                  exact ⟨rfl, nofun, fun _ => LineBuffer.discarding_of_overflow hpush⟩
              | _ => cases h

/-- Reading ends, before the rounds that it is given are used up. -/
theorem ends (limit : Int) (deadline : τ) (r : Reader τ) :
    ∃ result passes, EndsAfter (pass limit deadline) result passes r ∧ passes ≤ r.socket.readRounds := by
  have hcost (r r' : Reader τ) (hpass : r.pass limit deadline = .inr r') :
      r'.cost deadline < r.cost deadline := (pass_goes_on hpass).1
  obtain ⟨result, passes, hends, hpasses⟩ := EndsAfter.of_cost (cost deadline) hcost r
  refine ⟨result, passes, hends, hpasses.trans ?_⟩
  have htime := timeLeft_le deadline r.clock
  rw [Socket.readRounds_eq, cost, Socket.idleRounds]
  omega

/-- Reading ends by the deadline, or when it begins if that is later. -/
theorem in_time {ending : Socket.LineEnd} {s' : Socket τ} {clock' : τ} {buffer' : LineBuffer} {passes : Nat}
    (h : EndsAfter (pass limit deadline) (ending, s', clock', buffer') passes r) :
    clock' ≤ max r.clock deadline ∧ (ending = .expired → deadline ≤ clock') ∧
      (ending = .overflow → buffer'.discarding = true) := by
  obtain ⟨last, hlast, hpass⟩ := h.in_time clock fun _ _ hpass => (pass_goes_on hpass).2
  obtain ⟨rfl, hend⟩ := pass_ends hpass
  exact ⟨hlast, hend⟩

end Reader

structure Writer (τ : Type) where
  socket : Socket τ
  clock : τ
  sent : Nat
  rest : List UInt8
  taken : List (List UInt8)

namespace Writer

section

variable {τ : Type} [Zero τ] [Add τ] [Sub τ] [LE τ] [DecidableLE τ]

def stop (w : Writer τ) (ending : Socket.WriteEnd) : Socket.WriteEnd × Socket τ × τ × List (List UInt8) :=
  (ending, w.socket, w.clock, w.taken)

def wait (deadline : τ) (w : Writer τ) :
    (Socket.WriteEnd × Socket τ × τ × List (List UInt8)) ⊕ Writer τ :=
  if deadline - w.clock ≤ 0 then .inl (w.stop (.expired w.sent))
  else
    let (socket, clock) := w.socket.awaitUptake (deadline - w.clock) w.clock
    .inr { w with socket, clock }

/-- One pass of writing. -/
def pass (deadline : τ) (w : Writer τ) :
    (Socket.WriteEnd × Socket τ × τ × List (List UInt8)) ⊕ Writer τ :=
  if w.rest.isEmpty then .inl (w.stop .done)
  else
    match w.socket.send with
    | (.blocked, socket) => wait deadline { w with socket }
    | (.interrupted, socket) => wait deadline { w with socket }
    | (.failed text, socket) => .inl (stop { w with socket } (.failed text))
    | (.taken none, socket) => .inl (stop { w with socket, taken := w.rest :: w.taken } .done)
    | (.taken (some count), socket) =>
      let chunk := w.rest.take count
      if chunk.isEmpty then .inl (stop { w with socket, taken := [] :: w.taken } .closed)
      else
        .inr { w with
          socket
          sent := w.sent + chunk.length
          rest := w.rest.drop count
          taken := chunk :: w.taken }

variable {deadline : τ} {w : Writer τ}

theorem writeAll_succ (deadline : τ) (rounds : Nat) (w : Writer τ) :
    w.socket.writeAll deadline (rounds + 1) w.clock w.sent w.rest w.taken =
      match w.pass deadline with
      | .inl result => result
      | .inr next => next.socket.writeAll deadline rounds next.clock next.sent next.rest next.taken := by
  rw [Socket.writeAll, pass]
  split
  · rfl
  · cases w.socket.send with
    | mk sent socket =>
        cases sent with
        | blocked =>
            simp only [wait]
            split <;> rfl
        | interrupted =>
            simp only [wait]
            split <;> rfl
        | failed text => rfl
        | taken limit =>
            cases limit with
            | none => rfl
            | some count =>
                dsimp only
                split <;> rfl

/-- With rounds enough, the bounded loop gives what the unbounded one gives. -/
theorem writeAll_of_ends {result : Socket.WriteEnd × Socket τ × τ × List (List UInt8)} {passes rounds : Nat}
    (h : EndsAfter (pass deadline) result passes w) (hrounds : passes ≤ rounds) :
    w.socket.writeAll deadline rounds w.clock w.sent w.rest w.taken = result := by
  induction h generalizing rounds with
  | last hlast =>
      obtain ⟨rounds, rfl⟩ := Nat.exists_eq_add_of_le' hrounds
      rw [writeAll_succ, hlast]
  | next hpass _ ih =>
      obtain ⟨rounds, rfl⟩ := Nat.exists_eq_add_of_le' (Nat.le_of_add_left_le hrounds)
      rw [writeAll_succ, hpass]
      exact ih (Nat.le_of_succ_le_succ hrounds)

/-- Writing ends at the time of its last pass. -/
theorem clock_of_pass_ends {ending : Socket.WriteEnd} {s' : Socket τ} {clock' : τ}
    {taken' : List (List UInt8)} (h : w.pass deadline = .inl (ending, s', clock', taken')) :
    clock' = w.clock := by
  have hexpired {socket : Socket τ} (h : wait deadline { w with socket } = .inl (ending, s', clock', taken')) :
      clock' = w.clock := by
    unfold wait at h
    split at h
    · cases h
      rfl
    · cases h
  unfold pass at h
  split at h
  · cases h
    rfl
  · cases hfirst : w.socket.send with
    | mk sent socket =>
        rw [hfirst] at h
        cases sent with
        | blocked => exact hexpired h
        | interrupted => exact hexpired h
        | failed text =>
            cases h
            rfl
        | taken limit =>
            cases limit with
            | none =>
                cases h
                rfl
            | some count =>
                dsimp only at h
                split at h
                · cases h
                  rfl
                · cases h

end

end Writer

/-- The schedule starts with something to wait for. -/
def Uptake.Waits {τ : Type} : List (Uptake τ) → Prop
  | pause _ :: _ => True
  | stuck :: _ => True
  | waitFailure :: _ => True
  | _ => False

namespace Socket

/-- Having bytes taken, or being interrupted, takes an entry off the schedule; where nothing is taken there is
something to wait for. -/
theorem send_uptakes {τ : Type} (s : Socket τ) :
    match s.send.1 with
    | .taken (some _) => s.send.2.uptakes.length < s.uptakes.length
    | .interrupted => s.send.2.uptakes.length < s.uptakes.length
    | .blocked => s.send.2.uptakes = s.uptakes ∧ Uptake.Waits s.uptakes
    | _ => True := by
  unfold send
  cases huptakes : s.uptakes with
  | nil => trivial
  | cons first rest => cases first <;> simp [Uptake.Waits, huptakes]

variable {τ : Type} [Ring τ] [LinearOrder τ] [IsStrictOrderedRing τ]

/-- Waiting ends within its limit.  It takes an entry off the schedule, or lasts as long as it may, if there is
something to wait for. -/
theorem awaitUptake_spec (s : Socket τ) {limit : τ} (clock : τ) (hlimit : 0 < limit) :
    (s.awaitUptake limit clock).1.uptakes.length ≤ s.uptakes.length ∧
      (s.awaitUptake limit clock).2 ≤ clock + limit ∧
      (Uptake.Waits s.uptakes →
        (s.awaitUptake limit clock).1.uptakes.length < s.uptakes.length ∨
          (s.awaitUptake limit clock).2 = clock + limit) := by
  have hnow : clock ≤ clock + limit := le_add_of_nonneg_right hlimit.le
  unfold awaitUptake
  split
  · rename_i rest hfirst
    have hless : rest.length < s.uptakes.length := by simp [hfirst]
    exact ⟨hless.le, hnow, fun _ => .inl hless⟩
  · exact ⟨le_rfl, le_rfl, fun _ => .inr rfl⟩
  · rename_i time rest hfirst
    have hless : rest.length < s.uptakes.length := by simp [hfirst]
    split
    · rename_i htime
      exact ⟨hless.le, add_le_add_right htime clock, fun _ => .inl hless⟩
    · exact ⟨by rw [hfirst]; exact le_rfl, le_rfl, fun _ => .inr rfl⟩
  · refine ⟨le_rfl, hnow, fun hwaits => ?_⟩
    unfold Uptake.Waits at hwaits
    split at hwaits <;> simp_all

end Socket

namespace Writer

variable {τ : Type} [Ring τ] [LinearOrder τ] [IsStrictOrderedRing τ] {deadline : τ} {w w' : Writer τ}

/-- What writing can still cost: the entries of the schedule, and one wait. -/
def cost (deadline : τ) (w : Writer τ) : Nat := w.socket.uptakes.length + timeLeft deadline w.clock

/-- A wait does not go past the deadline.  It costs something if something was taken off the schedule before
it, or if there is something to wait for. -/
theorem wait_goes_on (h : w.wait deadline = .inr w') :
    w'.clock ≤ deadline ∧ ∀ length, w.socket.uptakes.length < length ∨
      w.socket.uptakes.length ≤ length ∧ Uptake.Waits w.socket.uptakes →
        w'.cost deadline < length + timeLeft deadline w.clock := by
  unfold wait at h
  split at h
  · cases h
  · rename_i hleft
    have hlimit : 0 < deadline - w.clock := not_le.mp hleft
    obtain rfl := Sum.inr.inj h
    exact cost_of_wait hlimit (w.socket.awaitUptake_spec w.clock hlimit)

/-- Every pass after which writing goes on costs something, and none goes past the deadline. -/
theorem pass_goes_on (h : w.pass deadline = .inr w') :
    w'.cost deadline < w.cost deadline ∧ (w'.clock = w.clock ∨ w'.clock ≤ deadline) := by
  have hsent := w.socket.send_uptakes
  unfold pass at h
  split at h
  · cases h
  · cases hfirst : w.socket.send with
    | mk sent socket =>
        rw [hfirst] at h hsent
        cases sent with
        | blocked =>
            obtain ⟨hsame, hwaits⟩ := hsent
            obtain ⟨hclock, hcost⟩ := wait_goes_on h
            exact ⟨hcost _ (.inr ⟨hsame ▸ le_rfl, hsame ▸ hwaits⟩), .inr hclock⟩
        | interrupted =>
            obtain ⟨hclock, hcost⟩ := wait_goes_on h
            exact ⟨hcost _ (.inl hsent), .inr hclock⟩
        | failed text => cases h
        | taken limit =>
            cases limit with
            | none => cases h
            | some count =>
                dsimp only at h
                split at h
                · cases h
                · obtain rfl := Sum.inr.inj h
                  exact ⟨Nat.add_lt_add_right hsent _, .inl rfl⟩

/-- Writing ends, before the rounds that it is given are used up. -/
theorem ends (deadline : τ) (w : Writer τ) :
    ∃ result passes, EndsAfter (pass deadline) result passes w ∧ passes ≤ w.socket.writeRounds := by
  have hcost (w w' : Writer τ) (hpass : w.pass deadline = .inr w') :
      w'.cost deadline < w.cost deadline := (pass_goes_on hpass).1
  obtain ⟨result, passes, hends, hpasses⟩ := EndsAfter.of_cost (cost deadline) hcost w
  refine ⟨result, passes, hends, hpasses.trans ?_⟩
  have htime := timeLeft_le deadline w.clock
  rw [Socket.writeRounds, cost, Socket.idleRounds]
  omega

/-- Writing ends by the deadline, or when it begins if that is later. -/
theorem in_time {ending : Socket.WriteEnd} {s' : Socket τ} {clock' : τ} {taken' : List (List UInt8)}
    {passes : Nat} (h : EndsAfter (pass deadline) (ending, s', clock', taken') passes w) :
    clock' ≤ max w.clock deadline := by
  obtain ⟨last, hlast, hpass⟩ := h.in_time clock fun _ _ hpass => (pass_goes_on hpass).2
  exact clock_of_pass_ends hpass ▸ hlast

end Writer

namespace Tcp

theorem Tidy.connected_of_open? {τ : Type} {t : Tcp τ} (h : t.Tidy) (hopen : t.open? = none) :
    t.connected = false := by
  by_contra hconnected
  rw [Bool.not_eq_false] at hconnected
  obtain ⟨id, hsocket⟩ := Option.isSome_iff_exists.mp (h.connected_iff.mp hconnected)
  simp [open?, hconnected, hsocket] at hopen

/-- A call that ends by closing the connection takes no more time. -/
theorem broken_of_drop {τ α : Type} {t t' : Tcp τ} {n n' : Network τ} {answer answer' : α}
    {reason : TransportNotice} (h : (answer, t.drop n reason) = (answer', t', n')) :
    t'.open? = none ∧ n'.clock = n.clock := by
  obtain ⟨-, hdrop⟩ := Prod.mk.inj h
  have hidle := (t.release_spec (n.report reason)).idle
  have hnotes := t.notes_drop n reason
  rw [← drop, hdrop] at hidle
  rw [hdrop] at hnotes
  exact ⟨by rw [show t' = t.idle from hidle]; rfl, hnotes.clock⟩

section

variable {τ : Type} [Zero τ] [Add τ] [Sub τ] [LE τ] [DecidableLE τ]

/-- A transport in use: any calls have been made on it, whatever has become of them and whatever happened
on the network. -/
inductive InUse : Tcp τ → Prop
  | made (target : Target) (connectTimeout ioTimeout : τ) (lineLimit : Whole) :
      InUse { target, connectTimeout, ioTimeout, lineLimit }
  | connect {t : Tcp τ} (h : InUse t) (n : Network τ) : InUse (t.connect n).2.1
  | disconnect {t : Tcp τ} (h : InUse t) (n : Network τ) : InUse (t.disconnect n).1
  | probe {t : Tcp τ} (h : InUse t) (n : Network τ) : InUse (t.probe n).2.1
  | send {t : Tcp τ} (h : InUse t) (n : Network τ) (bytes : List UInt8) : InUse (t.send n bytes).2.1
  | receive {t : Tcp τ} (h : InUse t) (n : Network τ) : InUse (t.receive n).2.1
  | exchange {t : Tcp τ} (h : InUse t) (n : Network τ) (bytes : List UInt8) :
      InUse (t.exchange n bytes).2.1

variable {t t' : Tcp τ} {n n' : Network τ}

theorem open?_of_send {bytes : List UInt8} (h : t.send n bytes = (true, t', n')) :
    ∃ id, t.open? = some id := by
  cases hopen : t.open? with
  | none => simp [send, hopen] at h
  | some id => exact ⟨id, rfl⟩

/-- Every call leaves the transport tidy. -/
theorem InUse.tidy (h : InUse t) : t.Tidy := by
  induction h with
  | made => exact ⟨by simp, fun _ => rfl, LineBuffer.within_empty _⟩
  | @connect t _ n ih =>
      cases hconnected : t.connected with
      | true =>
          simp only [Tcp.connect, hconnected, ↓reduceIte]
          exact ih
      | false =>
          obtain ⟨-, hopened, hfailed, -⟩ := connect_opening hconnected (n := n) rfl
          by_cases hresult : (t.connect n).1 = .ok true
          · exact hopened hresult ▸ t.tidy_opened _
          · exact hfailed hresult ▸ t.tidy_idle
  | disconnect _ n _ => exact (leaves_disconnect _ n).tidy
  | probe _ n ih => exact (ih.probe (n := n) rfl).tidy
  | send _ n bytes ih => exact (ih.send (n := n) rfl).tidy
  | receive _ n ih => exact (ih.receive (n := n) rfl).tidy
  | exchange _ n bytes ih => exact (ih.exchange (n := n) rfl).tidy

end

variable {τ : Type} [Ring τ] [LinearOrder τ] [IsStrictOrderedRing τ] {t t' : Tcp τ} {n n' : Network τ}

/-- Sending ends in time. -/
theorem clock_send_le (t : Tcp τ) (n : Network τ) (bytes : List UInt8) :
    (t.send n bytes).2.2.clock ≤ max n.clock (n.clock + t.ioTimeout) := by
  unfold send
  cases t.open? with
  | none => exact le_max_left _ _
  | some id =>
      obtain ⟨⟨ending, s, clock, taken⟩, passes, hends, hpasses⟩ :=
        Writer.ends (n.clock + t.ioTimeout) ⟨n.socket id, n.clock, 0, bytes, []⟩
      have hclock := Writer.in_time hends
      have hnotes := (Network.foldr_record { n.setSocket id s with clock } id taken).2
      simp only [show (n.socket id).writeAll _ _ n.clock 0 bytes [] = _ from
        Writer.writeAll_of_ends hends hpasses]
      generalize taken.foldr _ _ = n₁ at hnotes ⊢
      have hthen : n₁.clock ≤ max n.clock (n.clock + t.ioTimeout) := hnotes.clock ▸ hclock
      cases ending with
      | done => exact hthen
      | _ => exact (t.notes_drop n₁ _).clock ▸ hthen

/-- How a receive that reads no line ends: it is the deadline, an overflow, or the end of the connection. -/
theorem receive_in_time {line : Option (List UInt8)} (h : t.receive n = (line, t', n')) :
    n'.clock ≤ max n.clock (n.clock + t.ioTimeout) ∧ (line = none →
      n.clock + t.ioTimeout ≤ n'.clock ∨
        n.since n' = [.notice (.lineOverflow t.lineLimit)] ∧ t'.buffer.discarding = true ∨
          t'.open? = none) := by
  unfold receive at h
  cases hopen : t.open? with
  | none =>
      rw [hopen] at h
      cases h
      exact ⟨le_max_left _ _, fun _ => .inr (.inr hopen)⟩
  | some id =>
      obtain ⟨⟨ending, s, clock, buffer⟩, passes, hends, hpasses⟩ :=
        Reader.ends t.lineLimit.value (n.clock + t.ioTimeout) ⟨n.socket id, n.clock, t.buffer⟩
      obtain ⟨hclock, hexpired, hover⟩ := Reader.in_time hends
      simp only [hopen, show (n.socket id).readLine _ _ _ n.clock t.buffer = _ from
        Reader.readLine_of_ends hends hpasses] at h
      cases ending with
      | line bytes =>
          cases h
          exact ⟨hclock, nofun⟩
      | expired =>
          cases h
          exact ⟨hclock, fun _ => .inl (hexpired rfl)⟩
      | overflow =>
          cases h
          exact ⟨hclock, fun _ => .inr (.inl ⟨(Network.adds_report _ _).since, hover rfl⟩)⟩
      | _ =>
          obtain ⟨hbroken, hsame⟩ := broken_of_drop h
          exact ⟨hsame ▸ hclock, fun _ => .inr (.inr hbroken)⟩

/-- Every call of a transport ends, and ends in time, whatever the schedules of its socket hold.

The loops of sending and receiving end by themselves, with what the calls come to.  Either call takes no longer
than the timeout, and an exchange no longer than twice the timeout.  A receive that reads no line leaves the
transport connected only if the deadline has come or it has just given a line up, and a send that does not
succeed never leaves it connected. -/
theorem InUse.ends_in_time (hused : t.InUse) (n : Network τ) (bytes : List UInt8) :
    (∀ id, t.open? = some id →
      (∃ result passes,
        EndsAfter (Writer.pass (n.clock + t.ioTimeout)) result passes ⟨n.socket id, n.clock, 0, bytes, []⟩ ∧
          (n.socket id).writeAll (n.clock + t.ioTimeout) (n.socket id).writeRounds n.clock 0 bytes [] =
            result) ∧
      ∃ result passes,
        EndsAfter (Reader.pass t.lineLimit.value (n.clock + t.ioTimeout)) result passes
            ⟨n.socket id, n.clock, t.buffer⟩ ∧
          (n.socket id).readLine t.lineLimit.value (n.clock + t.ioTimeout) (n.socket id).readRounds n.clock
            t.buffer = result) ∧
      (t.send n bytes).2.2.clock ≤ n.clock + max 0 t.ioTimeout ∧
      (t.receive n).2.2.clock ≤ n.clock + max 0 t.ioTimeout ∧
      (t.exchange n bytes).2.2.clock ≤ n.clock + 2 * max 0 t.ioTimeout ∧
      ((t.receive n).1 = none → (t.receive n).2.1.connected = true →
        n.clock + t.ioTimeout ≤ (t.receive n).2.2.clock ∨
          n.since (t.receive n).2.2 = [.notice (.lineOverflow t.lineLimit)] ∧
            (t.receive n).2.1.buffer.discarding = true) ∧
      ((t.send n bytes).1 = false → (t.send n bytes).2.1.connected = false) := by
  have htimeout (n : Network τ) : max n.clock (n.clock + t.ioTimeout) = n.clock + max 0 t.ioTimeout := by
    rw [← max_add_add_left, add_zero]
  have hsend := htimeout n ▸ t.clock_send_le n bytes
  have hreceive (n : Network τ) : (t.receive n).2.2.clock ≤ n.clock + max 0 t.ioTimeout :=
    htimeout n ▸ (receive_in_time (t := t) (n := n) rfl).1
  refine ⟨fun id _ => ⟨?_, ?_⟩, hsend, hreceive n, ?_, fun hnone hconnected => ?_, fun hfails => ?_⟩
  · obtain ⟨result, passes, hends, hpasses⟩ :=
      Writer.ends (n.clock + t.ioTimeout) ⟨n.socket id, n.clock, 0, bytes, []⟩
    exact ⟨result, passes, hends, Writer.writeAll_of_ends hends hpasses⟩
  · obtain ⟨result, passes, hends, hpasses⟩ :=
      Reader.ends t.lineLimit.value (n.clock + t.ioTimeout) ⟨n.socket id, n.clock, t.buffer⟩
    exact ⟨result, passes, hends, Reader.readLine_of_ends hends hpasses⟩
  · rw [two_mul, ← add_assoc]
    unfold Tcp.exchange
    cases hcall : t.send n bytes with
    | mk done rest =>
        obtain ⟨t₁, n₁⟩ := rest
        rw [hcall] at hsend
        cases done with
        | false => exact hsend.trans (le_add_of_nonneg_right (le_max_left 0 _))
        | true =>
            obtain ⟨id, hopen⟩ := open?_of_send hcall
            obtain rfl : t₁ = t := (send_spec hopen hcall).2.1
            exact (hreceive n₁).trans (add_le_add_left hsend _)
  · rcases (receive_in_time (n := n) rfl).2 hnone with hpassed | hover | hbroken
    · exact .inl hpassed
    · exact .inr hover
    · have hclosed := (hused.receive n).tidy.connected_of_open? hbroken
      simp [hclosed] at hconnected
  · refine (hused.send n bytes).tidy.connected_of_open? ?_
    cases hcall : t.send n bytes with
    | mk done rest =>
        obtain ⟨t₁, n₁⟩ := rest
        rw [hcall] at hfails
        obtain rfl : done = false := hfails
        cases hopen : t.open? with
        | none =>
            simp only [Tcp.send, hopen] at hcall
            cases hcall
            exact hopen
        | some id =>
            obtain rfl : t₁ = t.idle := (send_spec hopen hcall).2.1
            rfl

/-- A socket that takes bytes one by one and is interrupted, and from which a line comes in too slowly: the
exchange ends when its receive is due, with the transport connected.  The next send finds the socket stuck. -/
theorem InUse.ends_in_time_hindered :
    ∃ (t : Tcp Int) (n : Network Int) (exchanged : Option (List UInt8) × Tcp Int × Network Int)
      (sent : Bool × Tcp Int × Network Int), t.InUse ∧ n.clock = 1000 ∧ t.ioTimeout = 5 ∧
      exchanged = t.exchange n [48, 49] ∧ exchanged.1 = none ∧ exchanged.2.1.connected = true ∧
      exchanged.2.2.clock = 1007 ∧ exchanged.2.2.clock ≤ n.clock + 2 * max 0 t.ioTimeout ∧
      sent = exchanged.2.1.send exchanged.2.2 [50] ∧ sent.1 = false ∧ sent.2.1.connected = false ∧
      sent.2.2.clock = 1012 ∧ sent.2.2.clock ≤ exchanged.2.2.clock + max 0 exchanged.2.1.ioTimeout := by
  obtain ⟨t, ht⟩ : ∃ t : Tcp Int, t = {
    target := ⟨.text "10.0.0.2", .int 7000⟩, connectTimeout := 3, ioTimeout := 5, lineLimit := ⟨64, false⟩ } :=
      ⟨_, rfl⟩
  obtain ⟨n, hn⟩ : ∃ n : Network Int, n = { clock := 1000, coming := [{
    arrivals := [.interruption, .data [65], .pause 3, .waitFailure, .pause 9]
    uptakes := [.accept 1, .interruption, .pause 2, .accept 1, .stuck] }] } := ⟨_, rfl⟩
  have hmade : t.InUse := ht ▸ .made _ _ _ _
  have hused := hmade.connect n
  have hexchanged := hused.exchange (t.connect n).2.2 [48, 49]
  obtain ⟨-, -, -, hboth, -⟩ := hused.ends_in_time (t.connect n).2.2 [48, 49]
  obtain ⟨-, hsend, -, -, -, hclosed⟩ := hexchanged.ends_in_time
    ((t.connect n).2.1.exchange (t.connect n).2.2 [48, 49]).2.2 [50]
  refine ⟨_, _, _, _, hused, ?_, ?_, rfl, ?_, ?_, ?_, hboth, rfl, ?_, hclosed ?_, ?_, hsend⟩
  all_goals
    subst ht hn
    decide +kernel

end Tcp

end PeripheralLink

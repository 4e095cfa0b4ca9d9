import PeripheralLink.Proofs.Wire.Readings
import PeripheralLink.Wire.Socket
/-!
The two loops of a socket.  Whatever the schedule does, `Socket.readLine` takes bytes from the front of
what is arriving and hands each of them to the buffer, and what `Socket.writeAll` has had taken is a
front part of its bytes, all of them exactly when it succeeds.
-/

namespace PeripheralLink

def Arrival.bytes {τ : Type} : Arrival τ → List UInt8
  | data bytes => bytes
  | _ => []

/-- The byte that has been read, if any. -/
def Received.bytes : Received → List UInt8
  | byte b => [b]
  | _ => []

/-- Reading a byte takes it from the front of what is arriving. -/
theorem bytes_receiveFrom {τ : Type} (arrivals : List (Arrival τ)) :
    arrivals.flatMap Arrival.bytes =
      (receiveFrom arrivals).1.bytes ++ (receiveFrom arrivals).2.flatMap Arrival.bytes := by
  fun_induction receiveFrom arrivals with
  | case2 rest ih => simpa [Arrival.bytes] using ih
  | _ => simp [Arrival.bytes, Received.bytes]

/-- Looking at a byte takes nothing. -/
theorem bytes_peekFrom {τ : Type} (arrivals : List (Arrival τ)) :
    (peekFrom arrivals).2.flatMap Arrival.bytes = arrivals.flatMap Arrival.bytes := by
  fun_induction peekFrom arrivals with
  | case1 rest ih => simpa [Arrival.bytes] using ih
  | case2 => rfl
  | case3 arrivals hempty hdata =>
      -- no entry of data comes first, so nothing is read
      have hread := bytes_receiveFrom arrivals
      fun_cases receiveFrom arrivals with
      | case2 rest => exact absurd rfl (hempty rest)
      | case3 b rest => exact absurd rfl (hdata b [] rest)
      | case4 b c bytes rest => exact absurd rfl (hdata b (c :: bytes) rest)
      | _ => simp_all [receiveFrom, Received.bytes]

namespace Socket

variable {τ : Type}

def incoming (s : Socket τ) : List UInt8 := s.arrivals.flatMap Arrival.bytes

theorem incoming_receive (s : Socket τ) : s.incoming = s.receive.1.bytes ++ s.receive.2.incoming :=
  bytes_receiveFrom s.arrivals

theorem incoming_peek (s : Socket τ) : s.peek.2.incoming = s.incoming :=
  bytes_peekFrom s.arrivals

theorem arrivals_send (s : Socket τ) : s.send.2.arrivals = s.arrivals := by
  unfold send
  split <;> rfl

variable [Add τ] [Sub τ] [LE τ] [DecidableLE τ]

theorem incoming_awaitArrival (s : Socket τ) (limit clock : τ) :
    (s.awaitArrival limit clock).1.incoming = s.incoming := by
  unfold awaitArrival
  split
  · rfl
  · simp [incoming, Arrival.bytes, *]
  · split <;> simp [incoming, Arrival.bytes, *]
  · rfl

theorem arrivals_awaitUptake (s : Socket τ) (limit clock : τ) :
    (s.awaitUptake limit clock).1.arrivals = s.arrivals := by
  unfold awaitUptake
  split
  · rfl
  · rfl
  · split <;> rfl
  · rfl

variable [Zero τ]

/-- What the end of a line gives its reader. -/
def LineEnd.readings : LineEnd → List Reading
  | line bytes => [.line bytes]
  | overflow => [.overflow]
  | _ => []

/-- Reading takes bytes from the front of `incoming` one by one and leaves `rest`: it goes on after a byte
that gives nothing, and stops with a byte that gives its result or for want of bytes. -/
inductive LineEnd.Run (limit : Int) (result : LineEnd) (rest : List UInt8) (buffer' : LineBuffer) :
    List UInt8 → LineBuffer → Prop
  | stop (hresult : result.readings = []) : Run limit result rest buffer' rest buffer'
  | cons {incoming : List UInt8} {buffer buffer₁ : LineBuffer} {b : UInt8} {step : LineStep}
      (hpush : buffer.push limit b = (buffer₁, step)) (hstep : step.readings = [])
      (h : Run limit result rest buffer' incoming buffer₁) :
      Run limit result rest buffer' (b :: incoming) buffer
  | last {buffer : LineBuffer} {b : UInt8} {step : LineStep}
      (hpush : buffer.push limit b = (buffer', step)) (hstep : step.readings = result.readings) :
      Run limit result rest buffer' (b :: rest) buffer

/-- Reading has taken bytes from the front of `incoming` and left `rest`.  The buffer has absorbed
exactly these, and the end of the line is all that they gave. -/
def LineEnd.Reads (limit : Int) (result : LineEnd) (incoming rest : List UInt8)
    (buffer buffer' : LineBuffer) : Prop :=
  ∃ taken, incoming = taken ++ rest ∧ buffer.absorb limit taken = (buffer', result.readings)

section

variable {limit : Int} {result : LineEnd} {incoming rest : List UInt8} {buffer buffer' : LineBuffer}

theorem LineEnd.Run.reads (h : Run limit result rest buffer' incoming buffer) :
    result.Reads limit incoming rest buffer buffer' := by
  induction h with
  | stop hresult => exact ⟨[], rfl, by rw [hresult]; rfl⟩
  | @cons _ _ _ b _ hpush hstep _ ih =>
      obtain ⟨taken, rfl, habsorb⟩ := ih
      exact ⟨b :: taken, rfl, by simp [LineBuffer.absorb, hpush, hstep, habsorb]⟩
  | @last _ b _ hpush hstep => exact ⟨[b], rfl, by simp [LineBuffer.absorb, hpush, hstep]⟩

end

/-- Whatever the schedule does, reading a line takes its bytes in order and loses none. -/
theorem readLine_runs (limit : Int) (deadline : τ) (rounds : Nat) (s : Socket τ) (clock : τ)
    (buffer : LineBuffer) {result : LineEnd} {s' : Socket τ} {clock' : τ} {buffer' : LineBuffer}
    (h : s.readLine limit deadline rounds clock buffer = (result, s', clock', buffer')) :
    LineEnd.Run limit result s'.incoming buffer' s.incoming buffer := by
  induction rounds generalizing s clock buffer with
  | zero =>
      cases h
      exact .stop rfl
  | succ rounds ih =>
      have hread := s.incoming_receive
      -- a wait takes nothing, and the loop goes on with the buffer as it is
      have hwait {s₁ : Socket τ} (hsame : s.incoming = s₁.incoming)
          (h : (if deadline - clock ≤ 0 then (.expired, s₁, clock, buffer)
            else readLine limit deadline rounds (s₁.awaitArrival (deadline - clock) clock).1
              (s₁.awaitArrival (deadline - clock) clock).2 buffer) =
                (result, s', clock', buffer')) :
          LineEnd.Run limit result s'.incoming buffer' s.incoming buffer := by
        rw [hsame]
        split at h
        · cases h
          exact .stop rfl
        · rw [← incoming_awaitArrival s₁]
          exact ih _ _ _ h
      rw [readLine] at h
      cases hs : s.receive with
      | mk received s₁ =>
          rw [hs] at h hread
          cases received with
          | blocked => exact hwait hread h
          | interrupted => exact hwait hread h
          | ended =>
              cases h
              exact hread ▸ .stop rfl
          | failed text =>
              cases h
              exact hread ▸ .stop rfl
          | byte b =>
              rw [hread]
              dsimp only at h
              cases hpush : buffer.push limit b with
              | mk buffer₁ step =>
                  rw [hpush] at h
                  cases step with
                  | partialLine => exact .cons hpush rfl (ih _ _ _ h)
                  | resumed => exact .cons hpush rfl (ih _ _ _ h)
                  | complete line =>
                      cases h
                      exact .last hpush rfl
                  | overflow =>
                      cases h
                      exact .last hpush rfl

/-- The chunks that writing has had taken are a front part of the bytes, and all of them exactly when
it has succeeded. -/
structure WriteEnd.Takes (result : WriteEnd) (bytes : List UInt8) (chunks : List (List UInt8)) :
    Prop where
  front : chunks.flatten <+: bytes
  all_iff : result = .done ↔ chunks.flatten = bytes

variable {result : WriteEnd} {bytes : List UInt8} {chunks : List (List UInt8)}

/-- Writing that stops with bytes left has failed. -/
theorem WriteEnd.Takes.nil (hresult : result ≠ .done) (hbytes : bytes ≠ []) :
    result.Takes bytes [] where
  front := List.nil_prefix
  all_iff := ⟨fun hdone => absurd hdone hresult, fun hnil => absurd hnil.symm hbytes⟩

theorem WriteEnd.Takes.nil_done : WriteEnd.done.Takes [] [] where
  front := List.nil_prefix
  all_iff := by simp

/-- Another chunk goes before what is taken of the bytes behind it. -/
theorem WriteEnd.Takes.cons {count : Nat} (h : result.Takes (bytes.drop count) chunks) :
    result.Takes bytes (bytes.take count :: chunks) where
  front := by
    rw [List.flatten_cons]
    conv => rhs; rw [← List.take_append_drop count bytes]
    exact (List.prefix_append_right_inj _).mpr h.front
  all_iff := by
    rw [h.all_iff, List.flatten_cons]
    conv => rhs; rhs; rw [← List.take_append_drop count bytes]
    exact (List.append_right_inj _).symm

/-- Whatever the schedule does, writing has a front part of the bytes taken.  What is arriving
meanwhile is left alone. -/
theorem writeAll_takes (deadline : τ) (rounds : Nat) (s : Socket τ) (clock : τ) (sent : Nat)
    (bytes : List UInt8) (taken : List (List UInt8)) {s' : Socket τ} {clock' : τ}
    {taken' : List (List UInt8)}
    (h : s.writeAll deadline rounds clock sent bytes taken = (result, s', clock', taken')) :
    s'.arrivals = s.arrivals ∧ ∃ chunks, taken' = chunks.reverse ++ taken ∧ result.Takes bytes chunks := by
  induction rounds generalizing s clock sent bytes taken with
  | zero =>
      rw [writeAll] at h
      split at h
      · rename_i hempty
        cases h
        rw [List.isEmpty_iff.mp hempty]
        exact ⟨rfl, [], rfl, .nil_done⟩
      · rename_i hempty
        cases h
        exact ⟨rfl, [], rfl, .nil nofun (by simpa using hempty)⟩
  | succ rounds ih =>
      rw [writeAll] at h
      split at h
      · rename_i hempty
        cases h
        rw [List.isEmpty_iff.mp hempty]
        exact ⟨rfl, [], rfl, .nil_done⟩
      · rename_i hempty
        have hbytes : bytes ≠ [] := by simpa using hempty
        have hsent := s.arrivals_send
        have hwait {s₁ : Socket τ} (hsame : s₁.arrivals = s.arrivals)
            (h : (if deadline - clock ≤ 0 then (.expired sent, s₁, clock, taken)
              else writeAll deadline rounds (s₁.awaitUptake (deadline - clock) clock).1
                (s₁.awaitUptake (deadline - clock) clock).2 sent bytes taken) =
                  (result, s', clock', taken')) :
            s'.arrivals = s.arrivals ∧
              ∃ chunks, taken' = chunks.reverse ++ taken ∧ result.Takes bytes chunks := by
          split at h
          · cases h
            exact ⟨hsame, [], rfl, .nil nofun hbytes⟩
          · obtain ⟨harrivals, hchunks⟩ := ih _ _ _ _ _ h
            exact ⟨harrivals.trans ((arrivals_awaitUptake _ _ _).trans hsame), hchunks⟩
        cases hs : s.send with
        | mk outcome s₁ =>
            rw [hs] at h hsent
            cases outcome with
            | blocked => exact hwait hsent h
            | interrupted => exact hwait hsent h
            | failed text =>
                cases h
                exact ⟨hsent, [], rfl, .nil nofun hbytes⟩
            | taken count =>
                cases count with
                | none =>
                    cases h
                    exact ⟨hsent, [bytes], by simp, by simp, by simp⟩
                | some count =>
                    dsimp only at h
                    split at h
                    · cases h
                      exact ⟨hsent, [[]], rfl, by simp, by simp [hbytes.symm]⟩
                    · obtain ⟨harrivals, chunks, htaken, htakes⟩ := ih _ _ _ _ _ h
                      refine ⟨harrivals.trans hsent, bytes.take count :: chunks, ?_, htakes.cons⟩
                      rw [htaken, List.reverse_cons, List.append_assoc]
                      rfl

end Socket

end PeripheralLink

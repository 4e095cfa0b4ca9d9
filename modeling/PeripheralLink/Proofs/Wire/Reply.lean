import PeripheralLink.Proofs.Wire.Session
/-!
What an exchange returns as the reply.  A reply carries no mark of its request, and an exchange reads the
first line that ends, wherever its bytes come from: the partial line of an earlier call and the bytes that
have arrived before the request is written go in front of what comes after.  `Tcp.exchange_fresh_iff` says
exactly when the line that is returned has arrived after the request, and
`Session.exchange_answered_late` shows a request that is answered by the reply to the one before.
-/

namespace PeripheralLink

/-- The bytes of the stream that a reading stands for, its line end included. -/
def Reading.bytes : Reading → List UInt8
  | line bytes => bytes ++ lineEnd
  | overflow => []

namespace LineBuffer

variable {limit : Int} {buffer buffer' : LineBuffer} {b : UInt8} {step : LineStep}

theorem toList_eq_of_back? {pending : Array UInt8} (hback : pending.back? = some 13) :
    pending.toList = pending.pop.toList ++ [13] := by
  rw [← Array.getLast?_toList, List.getLast?_eq_some_iff] at hback
  obtain ⟨front, hfront⟩ := hback
  rw [Array.toList_pop, hfront, List.dropLast_concat]

theorem push_complete {line : List UInt8} (hpush : buffer.push limit b = (buffer', .complete line)) :
    buffer' = {} := by
  simp only [push] at hpush
  split at hpush
  · exact (Prod.mk.inj hpush).1.symm
  · split at hpush
    · split at hpush <;> simp at hpush
    · simp at hpush

/-- One byte is kept after the partial line, unless it ends a line; only the tail of a line that is given
up is forgotten. -/
theorem push_keeps (hpush : buffer.push limit b = (buffer', step)) (hstep : step ≠ .overflow) :
    ∃ forgotten, buffer.pending.toList ++ [b] =
        forgotten ++ step.readings.flatMap Reading.bytes ++ buffer'.pending.toList ∧
      (buffer.discarding = false → forgotten = [] ∧ buffer'.discarding = false) ∧
      (step.readings ≠ [] → buffer'.discarding = false) := by
  by_cases hend : b = 10 ∧ buffer.pending.back? = some 13
  · obtain ⟨rfl, hback⟩ := hend
    have hsplit := toList_eq_of_back? hback
    simp only [push, hback, and_self, ↓reduceIte] at hpush
    cases hdiscarding : buffer.discarding with
    | true =>
        simp only [hdiscarding, ↓reduceIte, Prod.mk.injEq] at hpush
        obtain ⟨rfl, rfl⟩ := hpush
        exact ⟨buffer.pending.toList ++ [10], by simp [LineStep.readings], by simp, by simp⟩
    | false =>
        simp only [hdiscarding, Bool.false_eq_true, ↓reduceIte, Prod.mk.injEq] at hpush
        obtain ⟨rfl, rfl⟩ := hpush
        refine ⟨[], ?_, by simp, by simp⟩
        rw [hsplit]
        simp [LineStep.readings, Reading.bytes, lineEnd]
  · by_cases hfull : limit ≤ (buffer.pending.push b).size
    · simp only [push, if_neg hend, if_pos hfull, Prod.mk.injEq] at hpush
      obtain ⟨rfl, rfl⟩ := hpush
      cases hdiscarding : buffer.discarding with
      | true =>
          exact ⟨buffer.pending.toList, by simp [LineStep.readings], by simp,
            by simp [LineStep.readings]⟩
      | false =>
          simp [hdiscarding] at hstep
    · simp only [push, if_neg hend, if_neg hfull, Prod.mk.injEq] at hpush
      obtain ⟨rfl, rfl⟩ := hpush
      refine ⟨[], by simp [LineStep.readings], ?_, by simp [LineStep.readings]⟩
      intro hdiscarding
      exact ⟨rfl, hdiscarding⟩

/-- Bytes that give up no line are all kept in order: the rest of a line given up before, the lines, and
the partial line. -/
theorem absorb_keeps (bytes : List UInt8) (buffer : LineBuffer) {readings : List Reading}
    (habsorb : buffer.absorb limit bytes = (buffer', readings)) (hkept : .overflow ∉ readings) :
    ∃ forgotten, buffer.pending.toList ++ bytes =
        forgotten ++ readings.flatMap Reading.bytes ++ buffer'.pending.toList ∧
      (buffer.discarding = false → forgotten = [] ∧ buffer'.discarding = false) := by
  induction bytes generalizing buffer readings with
  | nil =>
      cases habsorb
      exact ⟨[], by simp, fun hdiscarding => ⟨rfl, hdiscarding⟩⟩
  | cons b bytes ih =>
      cases hpush : buffer.push limit b with
      | mk buffer₁ step =>
          cases hrest : buffer₁.absorb limit bytes with
          | mk buffer₂ later =>
              simp only [absorb, hpush, hrest, Prod.mk.injEq] at habsorb
              obtain ⟨rfl, rfl⟩ := habsorb
              have hstep : step ≠ .overflow := by
                rintro rfl
                simp [LineStep.readings] at hkept
              have hlater : .overflow ∉ later := by simp_all
              obtain ⟨first, hfirst, hclear, hdone⟩ := push_keeps hpush hstep
              obtain ⟨second, hsecond, hclear'⟩ := ih buffer₁ hrest hlater
              have hall : buffer.pending.toList ++ b :: bytes = first ++
                  step.readings.flatMap Reading.bytes ++ second ++ later.flatMap Reading.bytes ++
                    buffer₂.pending.toList := by
                rw [List.append_cons, hfirst]
                simp only [List.append_assoc, hsecond]
              by_cases hgiven : step.readings = []
              · refine ⟨first ++ second, by simpa [hgiven] using hall, ?_⟩
                intro hdiscarding
                obtain ⟨rfl, hnext⟩ := hclear hdiscarding
                obtain ⟨rfl, hlast⟩ := hclear' hnext
                exact ⟨rfl, hlast⟩
              · -- a line is complete, so nothing is being skipped after it
                obtain ⟨rfl, hlast⟩ := hclear' (hdone hgiven)
                refine ⟨first, by simpa using hall, ?_⟩
                intro hdiscarding
                exact ⟨(hclear hdiscarding).1, hlast⟩

end LineBuffer

section

variable {τ : Type}

/-- The bytes that can be read from a socket without waiting. -/
def Arrival.atHand : List (Arrival τ) → List UInt8
  | .data bytes :: rest => bytes ++ atHand rest
  | .interruption :: rest => atHand rest
  | _ => []

theorem Arrival.atHand_isPrefix (arrivals : List (Arrival τ)) :
    atHand arrivals <+: arrivals.flatMap Arrival.bytes := by
  fun_induction atHand arrivals with
  | case1 bytes rest ih => simpa [Arrival.bytes] using ih
  | case2 rest ih => simpa [Arrival.bytes] using ih
  | case3 => exact List.nil_prefix

/-- The bytes that have arrived at a socket and not been read. -/
def Network.atHand (n : Network τ) (id : Nat) : List UInt8 := Arrival.atHand (n.socket id).arrivals

/-- A line that has been read from a socket since, of bytes that have all arrived since. -/
def Network.Fresh (n n' : Network τ) (id : Nat) (line : List UInt8) : Prop :=
  ∃ earlier, n.incoming id = n.atHand id ++ earlier ++ line ++ lineEnd ++ n'.incoming id

/-- Where a line stands behind what there was before and what had arrived, it is fresh exactly when these
end before it. -/
theorem Network.fresh_iff_of_append {n n' : Network τ} {id : Nat} {pending skipped line : List UInt8}
    (hstream : pending ++ n.incoming id = skipped ++ line ++ lineEnd ++ n'.incoming id) :
    n.Fresh n' id line ↔ pending.length + (n.atHand id).length ≤ skipped.length := by
  obtain ⟨later, hlater⟩ : n.atHand id <+: n.incoming id := Arrival.atHand_isPrefix _
  simp only [List.append_assoc] at hstream
  constructor
  · rintro ⟨earlier, hfresh⟩
    have hlength := congrArg List.length hstream
    rw [hfresh] at hlength
    simp only [List.length_append] at hlength
    omega
  · intro hle
    rw [← hlater, ← List.append_assoc] at hstream
    rcases List.append_eq_append_iff.mp hstream with
      ⟨earlier, hskipped, hrest⟩ | ⟨beyond, hbeyond, hrest⟩
    · exact ⟨earlier, by rw [← hlater, hrest]; simp only [List.append_assoc]⟩
    · have hlength := congrArg List.length hbeyond
      simp only [List.length_append] at hlength
      have hnil : beyond = [] := List.eq_nil_of_length_eq_zero (by omega)
      refine ⟨[], ?_⟩
      rw [hnil, List.nil_append] at hrest
      rw [← hlater, ← hrest]
      simp only [List.append_assoc, List.append_nil]

end

/-- Reading stops at the line end, so that nothing of the next line is in the buffer. -/
theorem Socket.LineEnd.Run.clear {limit : Int} {line incoming rest : List UInt8}
    {buffer buffer' : LineBuffer} (h : Run limit (.line line) rest buffer' incoming buffer) :
    buffer' = {} := by
  induction h with
  | stop hresult => cases hresult
  | cons _ _ _ ih => exact ih
  | @last _ _ step hpush hstep =>
      cases step with
      | complete line => exact LineBuffer.push_complete hpush
      | _ => cases hstep

variable {τ : Type} [Zero τ] [Add τ] [Sub τ] [LE τ] [DecidableLE τ]

namespace Tcp

variable {t t' : Tcp τ} {n n' : Network τ} {id : Nat} {line : List UInt8}

/-- A line that is received is the first one of the partial line and the bytes behind it, after what is
left of a line given up before. -/
theorem receive_line (hopen : t.open? = some id) (h : t.receive n = (some line, t', n')) :
    ∃ skipped, t.buffer.pending.toList ++ n.incoming id =
        skipped ++ line ++ lineEnd ++ n'.incoming id ∧
      (t.buffer.discarding = false → skipped = []) := by
  obtain ⟨result, s, clock, buffer, hread, hleft, -, entries, -, hgiven, -⟩ := receive_reads hopen h
  have hresult : result = .line line := by
    cases result <;> simp_all [readingsGiven, Socket.LineEnd.readings]
  subst hresult
  have hrun := Socket.readLine_runs _ _ _ _ _ _ hread
  obtain ⟨taken, hfront, habsorb⟩ := hrun.reads
  obtain rfl := hrun.clear
  obtain ⟨skipped, hkept, hclear⟩ :=
    LineBuffer.absorb_keeps taken t.buffer habsorb (by simp [Socket.LineEnd.readings])
  refine ⟨skipped, ?_, fun hdiscarding => (hclear hdiscarding).1⟩
  have hincoming : n.incoming id = taken ++ s.incoming := hfront
  rw [hleft, hincoming, ← List.append_assoc, hkept]
  simp [Socket.LineEnd.readings, Reading.bytes]

/-- The line that an exchange returns is the first line of what was there or came in, in that order: the
partial line of earlier calls, the bytes that had arrived before the request was written, and those that
arrived after.  So it has arrived after the request only if all that was there before belongs to a line
that was given up; without such a line, only if nothing was there. -/
theorem exchange_fresh_iff (hopen : t.open? = some id) {bytes : List UInt8}
    (h : t.exchange n bytes = (some line, t', n')) :
    ∃ skipped, t.buffer.pending.toList ++ n.incoming id =
        skipped ++ line ++ lineEnd ++ n'.incoming id ∧
      (n.Fresh n' id line ↔ t.buffer.pending.size + (n.atHand id).length ≤ skipped.length) ∧
      (t.buffer.discarding = false → skipped = [] ∧
        (n.Fresh n' id line ↔ t.buffer.pending = #[] ∧ n.atHand id = [])) := by
  unfold exchange at h
  cases hsend : t.send n bytes with
  | mk done rest =>
      obtain ⟨t₁, n₁⟩ := rest
      obtain ⟨hincoming, ht, -⟩ := send_spec hopen hsend
      rw [hsend] at h
      cases done with
      | false => simp at h
      | true =>
          obtain rfl : t₁ = t := ht
          obtain ⟨skipped, hstream, hclear⟩ := receive_line hopen h
          rw [hincoming] at hstream
          have hfresh := Network.fresh_iff_of_append hstream
          rw [Array.length_toList] at hfresh
          refine ⟨skipped, hstream, hfresh, ?_⟩
          intro hdiscarding
          obtain rfl := hclear hdiscarding
          refine ⟨rfl, hfresh.trans ?_⟩
          simp [Array.size_eq_zero_iff]

end Tcp

namespace Session

variable {id : Nat} {t : Tcp τ} {n n' : Network τ} {account : Account}

/-- What is fed to the socket arrives behind all that is arriving. -/
theorem feed (h : Session id t n account) (arrivals : List (Arrival τ))
    (hfeed : n.feed id arrivals = .ok n') :
    Session id t n' { account with arrived := account.arrived ++ arrivals.flatMap Arrival.bytes } := by
  have hplace : ¬ (id : Int) < 0 := by omega
  simp only [Network.feed, hplace, ↓reduceIte, Int.natCast_nonneg, true_and, Int.toNat_natCast] at hfeed
  split at hfeed
  · rename_i hsize
    have hid : id < n.sockets.size := by exact_mod_cast hsize
    cases hfeed
    apply h.elsewhere
    simp [Network.incoming, Network.socket, Network.setSocket, Socket.incoming, hid]
  · cases hfeed

/-- A request whose reply comes in too late, in two parts, and the next request, which is answered by that
reply. -/
theorem exchange_answered_late :
    ∃ (t t' : Tcp Int) (n n' : Network Int) (account : Account), Session 0 t n account ∧
      account.sends = [([49], true)] ∧ account.readings = [] ∧
      t.exchange n [50] = (some [79, 76, 68], t', n') ∧ ¬ n.Fresh n' 0 [79, 76, 68] := by
  have hopened := @Session.opened Int _ _ _ _ _ 0
    ⟨⟨.text "10.0.0.2", .int 7000⟩, 3, 1, ⟨4096, false⟩, none, false, {}⟩ _
    { clock := 0, coming := [{ arrivals := [.data [79]] }] } _ rfl rfl rfl
  have hasked := hopened.exchange [49] rfl
  have hlate := hasked.feed [.data [76, 68, 13, 10]] rfl
  obtain ⟨t, n, account, hlate, hsends, hreadings, ⟨t', n', hanswer⟩, hopen, hdiscarding, hpending⟩ :
      ∃ (t : Tcp Int) (n : Network Int) (account : Account), Session 0 t n account ∧
        account.sends = [([49], true)] ∧ account.readings = [] ∧
        (∃ t' n', t.exchange n [50] = (some [79, 76, 68], t', n')) ∧ t.open? = some 0 ∧
        t.buffer.discarding = false ∧ t.buffer.pending ≠ #[] :=
    ⟨_, _, _, hlate, rfl, rfl, ⟨_, _, rfl⟩, rfl, rfl, nofun⟩
  obtain ⟨_, -, -, hclear⟩ := Tcp.exchange_fresh_iff hopen hanswer
  refine ⟨t, t', n, n', account, hlate, hsends, hreadings, hanswer, ?_⟩
  intro hfresh
  exact hpending ((hclear hdiscarding).2.mp hfresh).1

end Session

end PeripheralLink

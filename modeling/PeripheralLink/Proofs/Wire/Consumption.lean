import PeripheralLink.Proofs.Wire.Session
/-!
How many bytes one call takes.  A call that reads a line gives it up at the bound, so that it never takes
more bytes than that.  A call that finds the transport in the middle of a line that has been given up goes
on to the end of that line first, and looks at its deadline only where it would have to wait:
`Tcp.receive_takes` says what a call can take at most, `Tcp.receive_skips` what it takes at least.

The main statement is `Session.oneCall_taken`.  No function of the bound alone limits what one call on a
connection takes: while a line is being skipped, any bytes without a line end are taken by one call,
however many they are and however short the time of the call is.
-/

namespace PeripheralLink

/-- No line ends in bytes that come behind the byte `last`. -/
def NoLineEnd (last : Option UInt8) (bytes : List UInt8) : Prop :=
  ¬ lineEnd <:+: last.toList ++ bytes

section

variable {last : Option UInt8} {b : UInt8} {bytes : List UInt8}

theorem noLineEnd_nil (last : Option UInt8) : NoLineEnd last [] := by
  intro h
  have hlength := h.length_le
  cases last <;> simp [lineEnd] at hlength

theorem noLineEnd_cons :
    NoLineEnd last (b :: bytes) ↔ ¬ (b = 10 ∧ last = some 13) ∧ NoLineEnd (some b) bytes := by
  cases last with
  | none =>
      simp [NoLineEnd]
  | some a =>
      have hfirst : lineEnd <+: a :: b :: bytes ↔ b = 10 ∧ a = 13 := by
        simp [lineEnd, List.cons_prefix_cons, eq_comm, and_comm]
      rw [NoLineEnd, Option.toList_some, List.singleton_append, List.infix_cons_iff, hfirst, not_or]
      simp [NoLineEnd]

/-- Without a carriage return no line ends. -/
theorem noLineEnd_of_not_mem (h : 13 ∉ last.toList ++ bytes) : NoLineEnd last bytes := by
  intro hend
  exact h (hend.subset List.mem_cons_self)

/-- Behind a byte that is no carriage return, only the bytes themselves count. -/
theorem noLineEnd_some_iff {a : UInt8} (ha : a ≠ 13) :
    NoLineEnd (some a) bytes ↔ NoLineEnd none bytes := by
  cases bytes with
  | nil => simp [noLineEnd_nil]
  | cons b bytes => simp [noLineEnd_cons, ha]

end

namespace LineBuffer

variable {limit : Int} {buffer buffer' : LineBuffer} {b : UInt8} {bytes : List UInt8} {step : LineStep}

/-- While no line is being skipped, a byte that gives nothing has been kept below the bound. -/
theorem push_kept (hkept : buffer.discarding = false) (hpush : buffer.push limit b = (buffer', step))
    (hstep : step.readings = []) :
    buffer' = { buffer with pending := buffer.pending.push b } ∧
      ((buffer.pending.push b).size : Int) < limit := by
  simp only [push, hkept, Bool.false_eq_true, ↓reduceIte] at hpush
  split at hpush
  · cases hpush
    simp [LineStep.readings] at hstep
  · split at hpush
    · cases hpush
      simp [LineStep.readings] at hstep
    · rename_i hroom
      cases hpush
      exact ⟨by rw [hkept], Int.not_le.mp hroom⟩

/-- While a line is being skipped, a byte gives nothing: either the line ends with it, or it is the last
byte of what is held. -/
theorem push_skipped (limit : Int) (hskipped : buffer.discarding = true) (b : UInt8) :
    (b = 10 ∧ buffer.pending.back? = some 13) ∧ buffer.push limit b = ({}, .resumed) ∨
      ¬ (b = 10 ∧ buffer.pending.back? = some 13) ∧
        ∃ held, buffer.push limit b = (⟨held, true⟩, .partialLine) ∧ held.back? = some b := by
  by_cases hend : b = 10 ∧ buffer.pending.back? = some 13
  · left
    exact ⟨hend, by simp [push, hend, hskipped]⟩
  · right
    refine ⟨hend, ?_⟩
    simp only [push, if_neg hend, hskipped, ↓reduceIte]
    split
    · exact ⟨_, rfl, by simp⟩
    · exact ⟨_, rfl, by simp⟩

/-- A line that is being skipped goes on to be skipped until it ends, however long it is. -/
theorem absorb_skipped (limit : Int) (hskipped : buffer.discarding = true)
    (hopen : NoLineEnd buffer.pending.back? bytes) :
    ∃ held, buffer.absorb limit bytes = (⟨held, true⟩, []) := by
  induction bytes generalizing buffer with
  | nil => exact ⟨buffer.pending, by rw [← hskipped]; rfl⟩
  | cons b bytes ih =>
      obtain ⟨hgoes, hlater⟩ := noLineEnd_cons.mp hopen
      obtain ⟨hend, -⟩ | ⟨-, held, hpush, hback⟩ := push_skipped limit hskipped b
      · exact absurd hend hgoes
      · obtain ⟨held', hrest⟩ := @ih ⟨held, true⟩ rfl (hback ▸ hlater)
        exact ⟨held', by simp [absorb, hpush, hrest, LineStep.readings]⟩

/-- A line without an end is given up with the byte that brings it to the bound. -/
theorem absorb_full (hkept : buffer.discarding = false)
    (hlength : (bytes.length : Int) + 1 = max 1 (limit - buffer.pending.size))
    (hopen : NoLineEnd buffer.pending.back? (bytes ++ [b])) :
    ∃ buffer', buffer.absorb limit bytes = (buffer', []) ∧
      buffer'.push limit b = (⟨#[b], true⟩, .overflow) := by
  induction bytes generalizing buffer with
  | nil =>
      have hgoes := (noLineEnd_cons.mp hopen).1
      have hfull : limit ≤ (buffer.pending.push b).size := by
        simp at hlength ⊢
        omega
      refine ⟨buffer, rfl, ?_⟩
      simp only [push, if_neg hgoes, if_pos hfull, hkept, Bool.false_eq_true, ↓reduceIte]
  | cons c bytes ih =>
      obtain ⟨hgoes, hlater⟩ := noLineEnd_cons.mp hopen
      have hroom : ¬ limit ≤ (buffer.pending.push c).size := by
        simp at hlength ⊢
        omega
      have hpush : buffer.push limit c =
          ({ buffer with pending := buffer.pending.push c }, .partialLine) := by
        simp only [push, if_neg hgoes, if_neg hroom]
      obtain ⟨buffer', habsorb, hlast⟩ :=
        @ih { buffer with pending := buffer.pending.push c } hkept (by simp at hlength ⊢; omega)
          (by simpa using hlater)
      exact ⟨buffer', by simp [absorb, hpush, habsorb, LineStep.readings], hlast⟩

/-- The bytes that one reading of a line can take. -/
inductive Takes (limit : Int) (buffer : LineBuffer) : List UInt8 → Prop
  | read {bytes : List UInt8} (hkept : buffer.discarding = false)
      (hlength : bytes.length ≤ max 1 limit.toNat) : Takes limit buffer bytes
  | skip {bytes : List UInt8} (hskipped : buffer.discarding = true)
      (hopen : NoLineEnd buffer.pending.back? bytes) : Takes limit buffer bytes
  | resume {skipped bytes : List UInt8} (hskipped : buffer.discarding = true)
      (hopen : NoLineEnd buffer.pending.back? skipped)
      (hend : ¬ NoLineEnd buffer.pending.back? (skipped ++ [10]))
      (hlength : bytes.length ≤ max 1 limit.toNat) : Takes limit buffer (skipped ++ 10 :: bytes)

/-- What is taken from the end of a line that is being skipped on. -/
theorem Takes.lineFeed (hskipped : buffer.discarding = true) (hback : buffer.pending.back? = some 13)
    (hlength : bytes.length ≤ max 1 limit.toNat) : Takes limit buffer (10 :: bytes) := by
  have hend : ¬ NoLineEnd buffer.pending.back? ([] ++ [10]) := by simp [noLineEnd_cons, hback]
  exact .resume hskipped (noLineEnd_nil _) hend hlength

/-- What is taken from a byte on that belongs to a line that is being skipped. -/
theorem Takes.cons {held : Array UInt8} (h : Takes limit ⟨held, true⟩ bytes) (hback : held.back? = some b)
    (hskipped : buffer.discarding = true) (hgoes : ¬ (b = 10 ∧ buffer.pending.back? = some 13)) :
    Takes limit buffer (b :: bytes) := by
  cases h with
  | read hkept => cases hkept
  | skip _ hopen => exact .skip hskipped (noLineEnd_cons.mpr ⟨hgoes, hback ▸ hopen⟩)
  | @resume skipped _ _ hopen hend hlength =>
      have hopen' : NoLineEnd buffer.pending.back? (b :: skipped) :=
        noLineEnd_cons.mpr ⟨hgoes, hback ▸ hopen⟩
      have hend' : ¬ NoLineEnd buffer.pending.back? (b :: skipped ++ [10]) := by
        intro hnone
        exact hend (hback ▸ (noLineEnd_cons.mp hnone).2)
      exact .resume hskipped hopen' hend' hlength

end LineBuffer

section

variable {τ : Type}

/-- The bytes that can be read one after the other, without a look at the deadline. -/
def Arrival.readable : List (Arrival τ) → List UInt8
  | .data bytes :: rest => bytes ++ readable rest
  | _ => []

theorem receiveFrom_of_readable (arrivals : List (Arrival τ)) {b : UInt8} {later : List UInt8}
    (h : Arrival.readable arrivals = b :: later) :
    ∃ rest, receiveFrom arrivals = (.byte b, rest) ∧ Arrival.readable rest = later := by
  fun_induction receiveFrom arrivals with
  | case2 rest ih => exact ih (by simpa [Arrival.readable] using h)
  | case3 c rest =>
      simp only [Arrival.readable, List.singleton_append, List.cons.injEq] at h
      obtain ⟨rfl, hlater⟩ := h
      exact ⟨rest, rfl, hlater⟩
  | case4 c d bytes rest =>
      simp only [Arrival.readable, List.cons_append, List.cons.injEq] at h
      obtain ⟨rfl, hlater⟩ := h
      exact ⟨_, rfl, hlater⟩
  | _ => simp [Arrival.readable] at h

/-- There are more rounds of reading than readable bytes. -/
theorem Socket.readable_lt_readRounds (s : Socket τ) :
    (Arrival.readable s.arrivals).length < s.readRounds := by
  unfold Socket.readRounds
  generalize s.arrivals = arrivals
  induction arrivals with
  | nil => simp [Arrival.readable, Socket.idleRounds]
  | cons arrival rest ih =>
      cases arrival with
      | data bytes =>
          simp only [Arrival.readable, List.length_append, List.map_cons, List.foldr_cons]
          omega
      | _ =>
          simp only [Arrival.readable, List.length_nil, List.map_cons, List.foldr_cons]
          omega

end

namespace Socket

section

variable {limit : Int} {result : LineEnd} {incoming rest : List UInt8} {buffer buffer' : LineBuffer}

/-- While no line is being skipped, what is held and what is taken stay within the bound. -/
theorem LineEnd.Run.taken_of_kept (h : Run limit result rest buffer' incoming buffer)
    (hkept : buffer.discarding = false) :
    ∃ taken, incoming = taken ++ rest ∧
      (taken.length ≤ 1 ∨ (buffer.pending.size + taken.length : Int) ≤ limit) := by
  induction h with
  | stop => exact ⟨[], rfl, .inl (by simp)⟩
  | last => exact ⟨[_], rfl, .inl (by simp)⟩
  | @cons _ _ _ b _ hpush hstep _ ih =>
      obtain ⟨rfl, hroom⟩ := LineBuffer.push_kept hkept hpush hstep
      obtain ⟨taken, rfl, hlength⟩ := ih hkept
      refine ⟨b :: taken, rfl, ?_⟩
      simp only [Array.size_push, List.length_cons] at hroom hlength ⊢
      omega

/-- Reading takes what is left of a line that is being skipped, and of the next line no more than the
bound. -/
theorem LineEnd.Run.takes (h : Run limit result rest buffer' incoming buffer) :
    ∃ taken, incoming = taken ++ rest ∧ LineBuffer.Takes limit buffer taken := by
  cases hskipped : buffer.discarding with
  | false =>
      obtain ⟨taken, hfront, hlength⟩ := h.taken_of_kept hskipped
      exact ⟨taken, hfront, .read hskipped (by omega)⟩
  | true =>
      induction h with
      | stop => exact ⟨[], rfl, .skip hskipped (noLineEnd_nil _)⟩
      | @cons _ buffer _ b _ hpush _ h ih =>
          obtain ⟨⟨rfl, hback⟩, hresumed⟩ | ⟨hgoes, held, hheld, hlast⟩ :=
            LineBuffer.push_skipped limit hskipped b
          · obtain ⟨rfl, -⟩ := Prod.mk.inj (hresumed.symm.trans hpush)
            obtain ⟨taken, rfl, hlength⟩ := h.taken_of_kept rfl
            exact ⟨10 :: taken, rfl, .lineFeed hskipped hback (by simp at hlength; omega)⟩
          · obtain ⟨rfl, -⟩ := Prod.mk.inj (hheld.symm.trans hpush)
            obtain ⟨taken, rfl, htakes⟩ := ih rfl
            exact ⟨b :: taken, rfl, htakes.cons hlast hskipped hgoes⟩
      | @last buffer b _ hpush _ =>
          obtain ⟨⟨rfl, hback⟩, -⟩ | ⟨hgoes, -⟩ := LineBuffer.push_skipped limit hskipped b
          · exact ⟨[10], rfl, .lineFeed hskipped hback (by simp)⟩
          · exact ⟨[b], rfl, .skip hskipped (noLineEnd_cons.mpr ⟨hgoes, noLineEnd_nil _⟩)⟩

end

variable {τ : Type}

/-- A readable byte is the next one that is read. -/
theorem receive_of_readable (s : Socket τ) {b : UInt8} {later : List UInt8}
    (h : Arrival.readable s.arrivals = b :: later) :
    ∃ s₁, s.receive = (.byte b, s₁) ∧ Arrival.readable s₁.arrivals = later ∧
      s.incoming = b :: s₁.incoming := by
  obtain ⟨rest, hreceive, hrest⟩ := receiveFrom_of_readable s.arrivals h
  have hincoming := bytes_receiveFrom s.arrivals
  rw [hreceive] at hincoming
  exact ⟨{ s with arrivals := rest }, by simp [receive, hreceive], hrest, hincoming⟩

variable [Zero τ] [Add τ] [Sub τ] [LE τ] [DecidableLE τ]

/-- As long as bytes can be read and give nothing, reading goes on, whatever the deadline is. -/
theorem readLine_of_readable (limit : Int) (deadline clock : τ) (rounds : Nat) {bytes : List UInt8}
    {s : Socket τ} {buffer buffer₁ : LineBuffer} {later : List UInt8}
    (hreadable : Arrival.readable s.arrivals = bytes ++ later)
    (habsorb : buffer.absorb limit bytes = (buffer₁, [])) :
    ∃ s₁ : Socket τ, s.readLine limit deadline (rounds + bytes.length) clock buffer =
        s₁.readLine limit deadline rounds clock buffer₁ ∧
      Arrival.readable s₁.arrivals = later ∧ s.incoming = bytes ++ s₁.incoming := by
  induction bytes generalizing s buffer with
  | nil =>
      cases habsorb
      exact ⟨s, rfl, hreadable, rfl⟩
  | cons b bytes ih =>
      obtain ⟨s', hread, hrest, hincoming⟩ := s.receive_of_readable hreadable
      cases hpush : buffer.push limit b with
      | mk buffer' step =>
          cases hlater : buffer'.absorb limit bytes with
          | mk buffer'' readings =>
              simp only [LineBuffer.absorb, hpush, hlater, Prod.mk.injEq, List.append_eq_nil_iff] at habsorb
              obtain ⟨rfl, hstep, rfl⟩ := habsorb
              obtain ⟨s₁, hline, hreadable₁, hincoming₁⟩ := ih hrest hlater
              refine ⟨s₁, ?_, hreadable₁, ?_⟩
              · rw [← hline, List.length_cons, ← Nat.add_assoc, readLine, hread]
                cases step with
                | partialLine => simp only [hpush]
                | resumed => simp only [hpush]
                | complete line => simp [LineStep.readings] at hstep
                | overflow => simp [LineStep.readings] at hstep
              · rw [hincoming, hincoming₁, List.cons_append]

end Socket

namespace Tcp

variable {τ : Type} [Zero τ] [Add τ] [Sub τ] [LE τ] [DecidableLE τ] {t t' : Tcp τ} {n n' : Network τ}
  {id : Nat}

/-- One call takes what is left of a line that is being skipped, and of the next line no more bytes than
the bound; without a line to skip it takes no more bytes than the bound. -/
theorem receive_takes {line : Option (List UInt8)} (hopen : t.open? = some id)
    (h : t.receive n = (line, t', n')) :
    ∃ taken, n.incoming id = taken ++ n'.incoming id ∧
      t.buffer.Takes t.lineLimit.value taken := by
  obtain ⟨result, s, clock, buffer, hread, hleft, -⟩ := receive_reads hopen h
  rw [hleft]
  exact (Socket.readLine_runs _ _ _ _ _ _ hread).takes

/-- While a line is being skipped, one call takes all the bytes that can be read if the line does not end
with them, however many they are and whatever the deadline is. -/
theorem receive_skips {line : Option (List UInt8)} (hopen : t.open? = some id)
    (h : t.receive n = (line, t', n')) (hskipped : t.buffer.discarding = true)
    (hgoes : NoLineEnd t.buffer.pending.back? (Arrival.readable (n.socket id).arrivals)) :
    ∃ more, n.incoming id =
      Arrival.readable (n.socket id).arrivals ++ more ++ n'.incoming id := by
  obtain ⟨result, s, clock, buffer, hread, hleft, -⟩ := receive_reads hopen h
  obtain ⟨held, habsorb⟩ := LineBuffer.absorb_skipped t.lineLimit.value hskipped hgoes
  obtain ⟨rounds, hrounds⟩ :=
    Nat.exists_eq_add_of_le' (Nat.le_of_lt (n.socket id).readable_lt_readRounds)
  obtain ⟨s₁, hline, -, hincoming⟩ := Socket.readLine_of_readable t.lineLimit.value
    (n.clock + t.ioTimeout) n.clock rounds (List.append_nil _).symm habsorb
  rw [hrounds, hline] at hread
  obtain ⟨more, hmore, -⟩ := (Socket.readLine_runs _ _ _ _ _ _ hread).reads
  refine ⟨more, ?_⟩
  rw [List.append_assoc, hleft, ← hmore]
  exact hincoming

/-- A line without an end is given up by the call that brings it to the bound, and is skipped from then
on. -/
theorem receive_gives_up {b : UInt8} {bytes later : List UInt8} (hopen : t.open? = some id)
    (hkept : t.buffer.discarding = false)
    (hreadable : Arrival.readable (n.socket id).arrivals = bytes ++ b :: later)
    (hlength : (bytes.length : Int) + 1 = max 1 (t.lineLimit.value - t.buffer.pending.size))
    (hgoes : NoLineEnd t.buffer.pending.back? (bytes ++ [b])) :
    ∃ n', t.receive n = (none, { t with buffer := ⟨#[b], true⟩ }, n') ∧
      Arrival.readable (n'.socket id).arrivals = later ∧
      n.incoming id = bytes ++ b :: n'.incoming id := by
  obtain ⟨buffer, habsorb, hpush⟩ := LineBuffer.absorb_full hkept hlength hgoes
  have hrounds := (n.socket id).readable_lt_readRounds
  rw [hreadable, List.length_append, List.length_cons] at hrounds
  obtain ⟨rounds, hrounds⟩ : ∃ rounds, (n.socket id).readRounds = rounds + 1 + bytes.length :=
    ⟨(n.socket id).readRounds - 1 - bytes.length, by omega⟩
  obtain ⟨s₁, hline, hrest, hbytes⟩ := Socket.readLine_of_readable t.lineLimit.value
    (n.clock + t.ioTimeout) n.clock (rounds + 1) hreadable habsorb
  obtain ⟨s₂, hread, hlater, hb⟩ := s₁.receive_of_readable hrest
  have hend : s₁.readLine t.lineLimit.value (n.clock + t.ioTimeout) (rounds + 1) n.clock buffer =
      (.overflow, s₂, n.clock, ⟨#[b], true⟩) := by
    simp only [Socket.readLine, hread, hpush]
  -- there are readable bytes, so the socket is one of those that exist
  have hid : id < n.sockets.size := by
    by_contra hnone
    simp [Network.socket, Array.getElem?_eq_none (Nat.not_lt.mp hnone), Arrival.readable] at hreadable
  have hsocket : (n.setSocket id s₂).socket id = s₂ := by simp [Network.socket, Network.setSocket, hid]
  refine ⟨{ n.setSocket id s₂ with clock := n.clock }.report (.lineOverflow t.lineLimit), ?_, ?_, ?_⟩
  · simp only [receive, hopen, hrounds, hline, hend]
  · change Arrival.readable ((n.setSocket id s₂).socket id).arrivals = later
    rw [hsocket, hlater]
  · change (n.socket id).incoming = bytes ++ b :: ((n.setSocket id s₂).socket id).incoming
    rw [hsocket, hbytes, hb]

end Tcp

namespace Session

variable {τ : Type} [Zero τ] [Add τ] [Sub τ] [LE τ] [DecidableLE τ]

/-- On some connection whose transport has this bound and gives a call this time, one call takes exactly
these bytes, at a moment at which a line is being skipped or not. -/
inductive OneCall (limit : Whole) (time : τ) (skipping : Bool) (taken : List UInt8) : Prop
  | intro {id : Nat} {t t' : Tcp τ} {n n' : Network τ} {account : Account} {line : Option (List UInt8)}
      (h : Session id t n account) (hopen : t.open? = some id) (hlimit : t.lineLimit = limit)
      (htime : t.ioTimeout = time) (hskipping : t.buffer.discarding = skipping)
      (hcall : t.receive n = (line, t', n')) (htaken : n.incoming id = taken ++ n'.incoming id) :
      OneCall limit time skipping taken

variable {limit : Whole} {time : τ} {taken : List UInt8}

theorem OneCall.length_le (h : OneCall limit time false taken) :
    taken.length ≤ max 1 limit.value.toNat := by
  obtain ⟨-, hopen, rfl, -, hkept, hcall, htaken⟩ := h
  obtain ⟨taken', hfront, htakes⟩ := Tcp.receive_takes hopen hcall
  obtain rfl := List.append_cancel_right (htaken.symm.trans hfront)
  cases htakes with
  | read _ hlength => exact hlength
  | skip hskipped => simp [hkept] at hskipped
  | resume hskipped => simp [hkept] at hskipped

/-- A connection with these limits that has just been opened, to a peer that has sent these bytes. -/
theorem opened_with (limit : Whole) (time : τ) (bytes : List UInt8) :
    ∃ (t : Tcp τ) (n : Network τ) (account : Account), Session 0 t n account ∧ t.open? = some 0 ∧
      t.lineLimit = limit ∧ t.ioTimeout = time ∧ t.buffer = {} ∧
      Arrival.readable (n.socket 0).arrivals = bytes ∧ n.incoming 0 = bytes := by
  have hopened := @Session.opened τ _ _ _ _ _ 0
    ⟨⟨.text "10.0.0.2", .int 7000⟩, time, time, limit, none, false, {}⟩ _
    { clock := 0, coming := [{ arrivals := [.data bytes] }] } _ rfl rfl rfl
  exact ⟨_, _, _, hopened, rfl, rfl, rfl, rfl, List.append_nil bytes, List.append_nil bytes⟩

/-- A peer that sends a line without an end has it given up, and whatever it goes on to send of that line
is taken by the next call. -/
theorem OneCall.of_noLineEnd (limit : Whole) (time : τ) (hgoes : NoLineEnd none taken) :
    OneCall limit time true taken := by
  obtain ⟨count, hcount⟩ : ∃ count : Nat, (count : Int) + 1 = max 1 limit.value :=
    ⟨(max 1 limit.value - 1).toNat, by omega⟩
  obtain ⟨t, n, account, hopened, hopen, hlimit, htime, hclear, hreadable, hincoming⟩ :=
    opened_with limit time (List.replicate count 65 ++ 65 :: taken)
  have hfront : NoLineEnd t.buffer.pending.back? (List.replicate count 65 ++ [65]) :=
    noLineEnd_of_not_mem (by simp [hclear])
  obtain ⟨n₁, hfirst, hreadable₁, hleft⟩ := Tcp.receive_gives_up hopen (by rw [hclear]) hreadable
    (by simpa [hclear, hlimit] using hcount) hfront
  have hskipping := hopened.receive hfirst
  have hopen₁ : ({ t with buffer := ⟨#[65], true⟩ } : Tcp τ).open? = some 0 := hopen
  cases hcall : ({ t with buffer := ⟨#[65], true⟩ } : Tcp τ).receive n₁ with
  | mk line rest =>
      obtain ⟨t₂, n₂⟩ := rest
      have hgoes₁ : NoLineEnd (some 65) (Arrival.readable (n₁.socket 0).arrivals) := by
        rw [hreadable₁]
        exact (noLineEnd_some_iff (by decide)).mpr hgoes
      obtain ⟨more, hmore⟩ := Tcp.receive_skips hopen₁ hcall rfl hgoes₁
      have hall : n₁.incoming 0 = taken := by
        rw [hincoming] at hleft
        simpa using hleft.symm
      -- nothing else is arriving, so that nothing more is taken
      rw [hreadable₁, hall, List.append_assoc, List.self_eq_append_right, List.append_eq_nil_iff] at hmore
      exact .intro hskipping hopen₁ hlimit htime rfl hcall (by rw [hmore.2, List.append_nil, hall])

/-- No function of the bound alone limits what one call takes. -/
theorem exists_oneCall_gt (bound : Whole → Nat) (limit : Whole) (time : τ) :
    ∃ taken, OneCall limit time true taken ∧ bound limit < taken.length := by
  have hgoes : NoLineEnd none (List.replicate (bound limit + 1) 65) := noLineEnd_of_not_mem (by simp)
  exact ⟨_, .of_noLineEnd limit time hgoes, by simp⟩

/-- What one call takes does not exceed the bound unless a line is being skipped.  While one is, any bytes
without a line end are taken by one call, whatever the bound of a line is, and even if the time for the
call is over as soon as it begins. -/
theorem oneCall_taken (limit : Whole) (time : τ) :
    (∀ taken, OneCall limit time false taken → taken.length ≤ max 1 limit.value.toNat) ∧
      ∀ taken, ¬ lineEnd <:+: taken → OneCall limit time true taken := by
  constructor
  · intro taken h
    exact h.length_le
  · intro taken hgoes
    exact .of_noLineEnd limit time hgoes

/-- A hundred thousand bytes, in one call that has no time at all, over a transport whose lines have at
most sixteen. -/
theorem oneCall_taken_endless :
    OneCall (⟨16, false⟩ : Whole) (0 : Int) true (List.replicate 100000 65) := by
  have hgoes : NoLineEnd none (List.replicate 100000 65) := by
    apply noLineEnd_of_not_mem
    intro hmem
    have heq : (13 : UInt8) = 65 := List.eq_of_mem_replicate hmem
    simp at heq
  exact (oneCall_taken (⟨16, false⟩ : Whole) (0 : Int)).2 _ hgoes

end Session

end PeripheralLink

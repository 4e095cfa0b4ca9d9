import PeripheralLink.Proofs.Message.Body
import PeripheralLink.Proofs.Message.Grammar
import PeripheralLink.Proofs.Wire.Framing
import PeripheralLink.Proofs.Wire.Session
/-!
The bound of a line as the reader and the codec count it.  The reader counts the bytes that it holds, the line
end among them, and gives up as soon as they reach the bound; the codec counts the line that it is given.  A
buffer stays below the bound (`LineBuffer.Roomy`), so a line that it gives has room for the line end; and a line
that is read into an empty buffer is given exactly if the codec would take it with its line end.

The main statements are `Session.readings_from_clear` and `Tcp.Bounded.receive`.
-/

namespace PeripheralLink

/-- A line that is being read has not reached the bound. -/
def LineBuffer.Roomy (limit : Int) (buffer : LineBuffer) : Prop :=
  buffer.discarding = false → (buffer.pending.size : Int) < max 1 limit

/-- A line that is given leaves room for its line end. -/
def Reading.Fits (limit : Int) : Reading → Prop
  | line bytes => (bytes.length : Int) + 2 ≤ limit
  | overflow => True

namespace LineBuffer.Roomy

variable {limit : Int} {buffer : LineBuffer}

theorem clear (limit : Int) : Roomy limit {} := by
  intro _
  exact Int.lt_of_lt_of_le Int.zero_lt_one (Int.le_max_left 1 limit)

/-- A byte keeps the buffer below the bound.  If it completes a line, two bytes more than the line were held. -/
theorem push (h : buffer.Roomy limit) (b : UInt8) :
    (buffer.push limit b).1.Roomy limit ∧ ∀ reading ∈ (buffer.push limit b).2.readings, reading.Fits limit := by
  rw [LineBuffer.push]
  by_cases hend : b = 10 ∧ buffer.pending.back? = some 13
  · rw [if_pos hend]
    refine ⟨clear limit, ?_⟩
    cases hkept : buffer.discarding with
    | true => exact List.forall_mem_nil _
    | false =>
        have hroom := h hkept
        have hheld : 0 < buffer.pending.size := by
          rw [Array.size_pos_iff]
          rintro hnone
          simp [hnone] at hend
        intro reading hreading
        obtain rfl := List.mem_singleton.mp hreading
        simp only [Reading.Fits, Array.length_toList, Array.size_pop]
        omega
  · rw [if_neg hend]
    dsimp only
    split
    · refine ⟨fun hkept => Bool.noConfusion hkept, ?_⟩
      split <;> simp [LineStep.readings, Reading.Fits]
    · rename_i hroom
      exact ⟨fun _ => Int.lt_of_lt_of_le (Int.not_le.mp hroom) (Int.le_max_right 1 limit), List.forall_mem_nil _⟩

theorem absorb (h : buffer.Roomy limit) (bytes : List UInt8) :
    (buffer.absorb limit bytes).1.Roomy limit ∧
      ∀ reading ∈ (buffer.absorb limit bytes).2, reading.Fits limit := by
  induction bytes generalizing buffer with
  | nil => exact ⟨h, List.forall_mem_nil _⟩
  | cons b bytes ih =>
      obtain ⟨hpushed, hfirst⟩ := h.push b
      obtain ⟨hrest, hlater⟩ := ih hpushed
      exact ⟨hrest, List.forall_mem_append.mpr ⟨hfirst, hlater⟩⟩

end LineBuffer.Roomy

/-- A transport with this bound, which holds less than it. -/
structure Tcp.Bounded {τ : Type} (limit : Whole) (t : Tcp τ) : Prop where
  bound : t.lineLimit = limit
  roomy : t.buffer.Roomy limit.value

namespace Tcp.Bounded

section

variable {τ : Type} {limit : Whole} {t t' : Tcp τ} {n n' : Network τ}

/-- A connection that is opened or closed starts with an empty buffer. -/
theorem cleared (h : t.Bounded limit) (socket : Option Nat) (connected : Bool) :
    Bounded limit { t with socket, connected, buffer := {} } :=
  ⟨h.bound, .clear limit.value⟩

theorem idle (h : t.Bounded limit) : t.idle.Bounded limit := h.cleared none false

theorem disconnect (h : t.Bounded limit) (n : Network τ) : (t.disconnect n).1.Bounded limit := by
  rw [(t.disconnect_spec n).idle]
  exact h.idle

theorem probe (h : t.Bounded limit) {alive : Bool} (hcall : t.probe n = (alive, t', n')) : t'.Bounded limit := by
  cases hopen : t.open? with
  | none =>
      simp only [Tcp.probe, hopen, Prod.mk.injEq] at hcall
      exact hcall.2.1 ▸ h
  | some id =>
      obtain ⟨-, -, rfl⟩ := probe_spec hopen hcall
      cases alive with
      | true => exact h
      | false => exact h.idle

theorem connect (h : t.Bounded limit) (n : Network τ) : (t.connect n).2.1.Bounded limit := by
  cases hclosed : t.connected with
  | true =>
      rw [Tcp.connect, if_pos hclosed]
      exact h
  | false =>
      obtain ⟨result, t', n', hcall⟩ : ∃ result t' n', t.connect n = (result, t', n') := ⟨_, _, _, rfl⟩
      rw [hcall]
      cases connects hclosed hcall with
      | opened _ => exact h.cleared _ _
      | _ => exact h.idle

end

variable {τ : Type} [Zero τ] [Add τ] [Sub τ] [LE τ] [DecidableLE τ] {limit : Whole} {t t' : Tcp τ}
  {n n' : Network τ} {bytes : List UInt8} {answer : Option (List UInt8)}

theorem send (h : t.Bounded limit) {done : Bool} (hcall : t.send n bytes = (done, t', n')) : t'.Bounded limit := by
  cases hopen : t.open? with
  | none =>
      simp only [Tcp.send, hopen, Prod.mk.injEq] at hcall
      exact hcall.2.1 ▸ h
  | some id =>
      obtain ⟨-, rfl, -⟩ := send_spec hopen hcall
      cases done with
      | true => exact h
      | false => exact h.idle

/-- A line that a call gives leaves room for its line end. -/
theorem receive (h : t.Bounded limit) (hcall : t.receive n = (answer, t', n')) :
    t'.Bounded limit ∧ ∀ line, answer = some line → (line.length : Int) + 2 ≤ limit.value := by
  cases hopen : t.open? with
  | none =>
      simp only [Tcp.receive, hopen, Prod.mk.injEq] at hcall
      obtain ⟨rfl, rfl, -⟩ := hcall
      exact ⟨h, fun _ hline => absurd hline.symm (Option.some_ne_none _)⟩
  | some id =>
      obtain ⟨taken, buffer, entries, -, habsorb, -, -, ht⟩ := receive_spec hopen hcall
      obtain ⟨hroomy, hfits⟩ := h.roomy.absorb taken
      rw [← h.bound, habsorb] at hroomy hfits
      constructor
      · rcases ht with rfl | rfl
        · exact ⟨h.bound, h.bound ▸ hroomy⟩
        · exact h.idle
      · rintro line rfl
        rw [← h.bound]
        exact hfits (.line line) List.mem_cons_self

theorem exchange (h : t.Bounded limit) (hcall : t.exchange n bytes = (answer, t', n')) :
    t'.Bounded limit ∧ ∀ line, answer = some line → (line.length : Int) + 2 ≤ limit.value := by
  cases hsend : t.send n bytes with
  | mk done rest =>
      obtain ⟨t₁, n₁⟩ := rest
      have hsent := h.send hsend
      rw [Tcp.exchange, hsend] at hcall
      cases done with
      | true => exact hsent.receive hcall
      | false =>
          cases hcall
          exact ⟨hsent, fun _ hline => absurd hline.symm (Option.some_ne_none _)⟩

end Tcp.Bounded

namespace Codec

variable {codec : Codec} {m : Message} {line : List UInt8}

/-- Only a line that is longer than the bound is refused for its length. -/
theorem parse_eq_lineTooLong_iff :
    (∃ length bound, codec.parse (.bytes line) = .error (.lineTooLong length bound)) ↔
      codec.lineLimit.value < line.length := by
  constructor
  · rintro ⟨length, bound, hparse⟩
    obtain ⟨reason, hrejects, hvoiced⟩ := parse_eq_error_iff.mp hparse
    cases hrejects with
    | lineTooLong hlong => exact hlong
    | notAscii => cases hvoiced
    | tokens _ _ hrefuses =>
        cases hrefuses with
        | countTooLarge =>
            rw [FrameError.voiced, FrameError.reporting] at hvoiced
            split at hvoiced <;> cases hvoiced
        | _ => cases hvoiced
  · intro hlong
    exact ⟨_, _, parse_eq_error_iff.mpr ⟨_, .lineTooLong hlong, rfl⟩⟩

/-- The line of a message is read as the message if it is within the bound, with its line end, and is dropped for
its length otherwise. -/
theorem decode_body_lineEnd (hfits : m.HeaderFits) :
    (13 + 12 * m.wordCount ≤ codec.lineLimit.value →
        ∃ m', codec.decode (.bytes (m.body ++ lineEnd)) = .message m' ∧ m'.same m = true) ∧
      (¬ 13 + 12 * m.wordCount ≤ codec.lineLimit.value →
        codec.decode (.bytes (m.body ++ lineEnd)) =
          .dropped (.lineTooLong (m.body ++ lineEnd).length codec.lineLimit)) := by
  have hparse := codec.parse_intercalate (carried_tokens m)
  have hlength := Message.length_lineBytes hfits
  rw [asciiBytes_append] at hparse hlength
  constructor
  · intro hbound
    obtain ⟨m', hread, hsame⟩ := readTokens_tokens hfits
    rw [if_neg (by omega), hread] at hparse
    exact ⟨m', decode_of_parse_ok hparse, hsame⟩
  · intro hbound
    rw [if_pos (by omega)] at hparse
    exact decode_of_parse_error hparse rfl

end Codec

/-- Behind complete segments, bytes are read as if they came first. -/
theorem readingsOf_append {limit : Int} (hlimit : 0 < limit) {stream : List UInt8} (h : (segments stream).2 = [])
    (more : List UInt8) : readingsOf limit (stream ++ more) = readingsOf limit stream ++ readingsOf limit more := by
  have hnone : ¬ limit ≤ (([] : List UInt8).length : Int) := Int.not_le.mpr hlimit
  simp only [readingsOf, segments_append, h, if_neg hnone, List.nil_append, List.map_append, List.append_assoc]

/-- A line and its line end give one reading. -/
theorem readingsOf_line {limit : Int} (hlimit : 0 < limit) {line : List UInt8} (hline : 10 ∉ line) :
    readingsOf limit (line ++ lineEnd) = [.ofSegment limit line] := by
  have hsegments := segments_line hline []
  rw [List.append_nil] at hsegments
  have hnone : ¬ limit ≤ (([] : List UInt8).length : Int) := Int.not_le.mpr hlimit
  simp only [readingsOf, hsegments, segments, if_neg hnone, List.map_cons, List.map_nil, List.append_nil]

namespace Session

variable {τ : Type} [Zero τ] [Add τ] [Sub τ] [LE τ] [DecidableLE τ] {id : Nat} {t t' : Tcp τ} {n n' : Network τ}
  {account account' : Account} {before bytes : List UInt8}

/-- Between two moments of a connection, of which the first finds its buffer empty, calls have given the readings
of the bytes consumed in between, whatever was consumed before. -/
theorem readings_from_clear (h : Session id t n account) (hlive : t.connected = true) (hclear : t.buffer = {})
    (hbefore : account.arrived = before ++ n.incoming id) (h' : Session id t' n' account')
    (hlimit : 0 < t.lineLimit.value) (hsame : t'.lineLimit = t.lineLimit)
    (harrived : account'.arrived = before ++ bytes ++ n'.incoming id) :
    account'.readings = account.readings ++ readingsOf t.lineLimit.value bytes := by
  obtain ⟨consumed, hconsumed, hreadings, hholds⟩ := h.balances.reads hlimit
  obtain rfl := List.append_cancel_right (hbefore.symm.trans hconsumed)
  have htail : (segments before).2 = [] := by
    have hheld := hholds hlive
    rw [hclear] at hheld
    cases hheld' : (segments before).2 with
    | nil => rfl
    | cons b tail =>
        rw [hheld'] at hheld
        cases hheld
  obtain ⟨consumed', hconsumed', hreadings', -⟩ := h'.balances.reads (hsame ▸ hlimit)
  obtain rfl := List.append_cancel_right (harrived.symm.trans hconsumed')
  rw [hreadings', hsame, readingsOf_append hlimit htail, hreadings]

/-- Whatever the stream, the lines that calls give leave room for their line end. -/
theorem length_of_mem_lines (h : Session id t n account) (hlimit : 0 < t.lineLimit.value) :
    ∀ line ∈ account.lines, (line.length : Int) + 2 ≤ t.lineLimit.value := by
  obtain ⟨consumed, -, hreadings, -⟩ := h.balances.reads hlimit
  intro line hline
  rw [Account.lines, hreadings, lines_readingsOf] at hline
  exact of_decide_eq_true (List.mem_filter.mp hline).2

end Session

end PeripheralLink

import PeripheralLink.Proofs.Link.Sound
import PeripheralLink.Proofs.Message.Grammar
import PeripheralLink.Proofs.Message.RoundTrip
import PeripheralLink.Proofs.Rig.Stations
import PeripheralLink.Scenario.Outside
/-!
Lines that cannot even be dropped.  A line whose word count is a number of thousands of digits is refused
for its size, and the size is too long to be worded; decoding such a line fails where every other
malformed line is dropped.  `Codec.Oversized` says which lines these are, and `Rig.decode_outcome` that
nothing else about a line makes decoding, receiving or a request fail.
-/

namespace PeripheralLink

open Text

theorem Number.isWritable_eq_false_iff (n : Nat) :
    Number.isWritable (n : Int) = false ↔ 10 ^ Number.digitLimit ≤ n := by
  rw [← Bool.not_eq_true, Number.isWritable_iff, Int.natAbs_natCast, Nat.not_lt]
  unfold Number.unwritable
  -- the power of the limit itself is not to be evaluated
  generalize Number.digitLimit = limit
  rfl

theorem FrameError.voiced_eq_sizeUnwritable_iff {n : Nat} :
    FrameError.voiced (.countTooLarge n) = .sizeUnwritable ↔ 10 ^ Number.digitLimit ≤ 4 * n := by
  rw [← Nat.mul_comm n 4, ← Number.isWritable_eq_false_iff]
  rw [voiced, reporting, wordSize]
  by_cases hwritable : Number.isWritable ((n * 4 : Nat) : Int) = true
  · rw [if_pos hwritable, hwritable]
    simp
  · rw [if_neg hwritable]
    simpa using hwritable

/-- The line is within the bound, its first three tokens are bytes, and its fourth token stands for a
number of words that comes to a size of more digits than can be written. -/
inductive Codec.Oversized (codec : Codec) (line : Line) : Prop
  | intro {cs : List Char} {read rest : List (List Char)} {token : List Char} {n : Nat}
      (hlength : line.length ≤ codec.lineLimit.value) (hchars : line.chars = .ok cs)
      (hread : ReadUpTo (words cs) read (token :: rest)) (hplace : read.length = 3)
      (hn : Denotes token n) (hsize : 10 ^ Number.digitLimit ≤ 4 * n)

theorem asciiChars_cases (position : Nat) (bs : List UInt8) :
    (∃ cs, asciiChars position bs = .ok cs ∧ cs.length = bs.length) ∨
      ∃ b place, asciiChars position bs = .error (.notAscii b place) := by
  rcases all_or_first_not (fun b : UInt8 => b.toNat < 0x80) bs with
    hascii | ⟨before, b, after, rfl, hbefore, hb⟩
  · left
    exact ⟨_, asciiChars_of_ascii position hascii, List.length_map _⟩
  · right
    exact ⟨b, _, asciiChars_of_not position hbefore hb⟩

/-- A line has as many characters as its length, or a byte outside ASCII. -/
theorem Line.chars_cases (line : Line) :
    (∃ cs, line.chars = .ok cs ∧ cs.length = line.length) ∨
      ∃ b place, line.chars = .error (.notAscii b place) := by
  cases line with
  | text cs => exact .inl ⟨cs, rfl, rfl⟩
  | bytes bs => exact asciiChars_cases 0 bs

namespace Codec

variable {codec : Codec} {line : Line}

/-- Among the reasons for which tokens are refused, only an excess can be impossible to word. -/
theorem Refuses.voiced_eq_sizeUnwritable {tokens : List (List Char)} {reason : FrameError}
    (h : Refuses tokens reason) (hvoiced : reason.voiced = .sizeUnwritable) :
    ∃ read token rest n, ReadUpTo tokens read (token :: rest) ∧ read.length = 3 ∧ Denotes token n ∧
      10 ^ Number.digitLimit ≤ 4 * n := by
  cases h with
  | countTooLarge h hplace hn hover =>
      exact ⟨_, _, _, _, h, hplace, hn, FrameError.voiced_eq_sizeUnwritable_iff.mp hvoiced⟩
  | _ => cases hvoiced

theorem parse_eq_sizeUnwritable_iff :
    codec.parse line = .error .sizeUnwritable ↔ codec.Oversized line := by
  constructor
  · intro hparse
    by_cases hlong : codec.lineLimit.value < line.length
    · simp [parse, hlong, bind, Except.bind] at hparse
      cases hparse
    · rcases line.chars_cases with ⟨cs, hchars, _⟩ | ⟨b, place, hchars⟩
      · rw [parse_of_chars (Int.not_lt.mp hlong) hchars, readTokens_eq_error_iff] at hparse
        obtain ⟨reason, hrefuses, hvoiced⟩ := hparse
        obtain ⟨_, _, _, _, hread, hplace, hn, hsize⟩ :=
          Refuses.voiced_eq_sizeUnwritable hrefuses hvoiced.symm
        exact .intro (Int.not_lt.mp hlong) hchars hread hplace hn hsize
      · simp [parse, hlong, hchars, bind, Except.bind] at hparse
  · rintro ⟨hlength, hchars, hread, hplace, hn, hsize⟩
    have hover : 1024 < 10 ^ 4 := by decide
    have hpower := Nat.pow_le_pow_right (n := 10) (by decide) (by decide : 4 ≤ Number.digitLimit)
    have hrefuses := Refuses.countTooLarge hread hplace hn
      (Nat.lt_of_lt_of_le hover (Nat.le_trans hpower hsize))
    rw [parse_of_chars hlength hchars, readTokens_of_refuses hrefuses,
      FrameError.voiced_eq_sizeUnwritable_iff.mpr hsize]

/-- Decoding fails for a line whose size cannot be worded, and for no other. -/
theorem decode_eq_failed_iff {e : FrameError} :
    codec.decode line = .failed e ↔ e = .sizeUnwritable ∧ codec.Oversized line := by
  rw [← parse_eq_sizeUnwritable_iff]
  unfold decode
  cases hparse : codec.parse line with
  | ok m => simp
  | error reason => cases reason <;> simp [FrameError.isMalformed, eq_comm]

theorem decode_eq_message_iff {m : Message} :
    codec.decode line = .message m ↔ codec.parse line = .ok m := by
  unfold decode
  cases hparse : codec.parse line with
  | ok m' => simp
  | error reason => cases reason <;> simp [FrameError.isMalformed]

theorem decode_eq_dropped_iff {reason : FrameError} :
    codec.decode line = .dropped reason ↔ codec.parse line = .error reason ∧ reason.isMalformed = true := by
  unfold decode
  cases hparse : codec.parse line with
  | ok m => simp
  | error e =>
      dsimp only
      constructor
      · intro h
        split at h
        · cases h
          exact ⟨rfl, ‹_›⟩
        · cases h
      · rintro ⟨hsame, hmalformed⟩
        obtain rfl := Except.error.inj hsame
        rw [if_pos hmalformed]

/-- A line with so many digits is longer than 3570 characters. -/
theorem Oversized.lt_length (h : codec.Oversized line) : 3570 < line.length := by
  obtain @⟨cs, read, rest, token, n, _, hchars, hread, _, hn, hsize⟩ := h
  have hlength : cs.length = line.length := by
    rcases line.chars_cases with ⟨cs', hchars', hlength⟩ | ⟨b, place, hchars'⟩
    · rwa [Except.ok.inj (hchars.symm.trans hchars')]
    · cases hchars.symm.trans hchars'
  have hword : token ∈ words cs := by
    rw [hread.tokens_eq]
    simp
  have htoken := length_le_of_mem_words hword
  -- the powers are compared once and not evaluated after that
  obtain ⟨width, hwidth, hlimit⟩ : ∃ width, width = 3570 ∧ 4 * 16 ^ width ≤ 10 ^ Number.digitLimit :=
    ⟨3570, rfl, by decide +kernel⟩
  by_contra hshort
  have hpower : 16 ^ token.length ≤ 16 ^ width := Nat.pow_le_pow_right (by decide) (by omega)
  have hlt := hn.lt
  generalize 10 ^ Number.digitLimit = bound at hsize hlimit
  omega

end Codec

variable {τ : Type}

theorem Link.accept_eq_error_iff {l : Link τ} {line : Option (List UInt8)} {e : FrameError} :
    (l.accept line).1 = .error e ↔
      e = .sizeUnwritable ∧ ∃ bs, line = some bs ∧ l.codec.Oversized (.bytes bs) := by
  cases line with
  | none => simp [accept]
  | some bs =>
      have hfailed : l.codec.decode (.bytes bs) = .failed e ↔ _ := Codec.decode_eq_failed_iff
      simp only [Option.some.injEq, exists_eq_left', ← hfailed, accept]
      cases l.codec.decode (.bytes bs) <;> simp

namespace Rig

variable {σ : Type} [Carrier σ τ] {r : Rig σ τ} {k : Nat} {l : Link τ} {f : Fault}

theorem accept_eq_error_iff (hl : r.link? k = some l) {line : Option (List UInt8)} :
    (r.accept k line).1 = .error f ↔
      f = .line .sizeUnwritable ∧ ∃ bs, line = some bs ∧ l.codec.Oversized (.bytes bs) := by
  have hresult : (r.accept k line).1 = (l.accept line).1.mapError .line := by rw [accept, hl]
  rw [hresult]
  constructor
  · intro h
    cases haccept : (l.accept line).1 with
    | ok m =>
        rw [haccept] at h
        cases h
    | error e =>
        rw [haccept] at h
        cases h
        obtain ⟨rfl, hline⟩ := Link.accept_eq_error_iff.mp haccept
        exact ⟨rfl, hline⟩
  · rintro ⟨rfl, hline⟩
    rw [Link.accept_eq_error_iff.mpr ⟨rfl, hline⟩]
    rfl

theorem receive_eq_error_iff (hl : r.link? k = some l) {id : Nat} (hid : l.channel? = some id) :
    (r.receive k).1 = .error f ↔
      f = .line .sizeUnwritable ∧ ∃ bs, (r.via fun o => Carrier.receive o id).1 = some bs ∧
        l.codec.Oversized (.bytes bs) := by
  have hchannel : (r.link? k).bind Link.channel? = some id := by rw [hl, Option.bind_some, hid]
  have hlink : (r.via fun o => Carrier.receive o id).2.link? k = some l :=
    (link?_of_stations (stations_via r _) k).trans hl
  rw [receive, hchannel]
  exact accept_eq_error_iff hlink

/-- A message that was written and answered, or not answered in time: the answer alone can make the
request fail. -/
theorem request_eq_error_iff (hl : r.link? k = some l) {id : Nat} (hid : l.channel? = some id)
    {m : Message} {bytes : List UInt8} (hbytes : m.lineBytes = .ok bytes)
    {line : Option (List UInt8)} (hline : (r.via fun o => Carrier.exchange o id bytes).1 = .ok line) :
    (r.request k m).1 = .error f ↔
      f = .line .sizeUnwritable ∧ ∃ bs, line = some bs ∧ l.codec.Oversized (.bytes bs) := by
  have hchannel : (r.link? k).bind Link.channel? = some id := by rw [hl, Option.bind_some, hid]
  have hlink : (r.via fun o => Carrier.exchange o id bytes).2.link? k = some l :=
    (link?_of_stations (stations_via r _) k).trans hl
  rw [request, hchannel]
  dsimp only
  rw [hbytes]
  dsimp only
  cases hexchange : r.via fun o => Carrier.exchange o id bytes with
  | mk result r₁ =>
      rw [hexchange] at hline hlink
      cases hline
      dsimp only at hlink ⊢
      split
      · exact accept_eq_error_iff (link?_change hlink _)
      · exact accept_eq_error_iff hlink

/-- What decoding a line comes to, and with it receiving and requests.  A line that parses is its message;
a line that does not is dropped, except that decoding fails when the declared size has too many digits to
be worded, which takes more than 3570 characters.  Why it is dropped can be worded unless it is a bound with
too many digits.  What the transport has delivered makes receiving and
requests fail in that case and in no other. -/
theorem decode_outcome (codec : Codec) (line : Line) :
    (∀ m, codec.decode line = .message m ↔ codec.parse line = .ok m) ∧
      ((∀ m, codec.parse line ≠ .ok m) → ¬ codec.Oversized line →
        ∃ reason, codec.decode line = .dropped reason) ∧
      (∀ reason, codec.decode line = .dropped reason → (reason.isWordable = true ↔
        (codec.lineLimit.value < line.length → Number.isWritable codec.lineLimit.value = true))) ∧
      (∀ e, codec.decode line = .failed e ↔ e = .sizeUnwritable ∧ codec.Oversized line) ∧
      (codec.Oversized line → 3570 < line.length) ∧
      ∀ (r : Rig σ τ) k l id f, r.link? k = some l → l.channel? = some id →
        ((r.receive k).1 = .error f ↔
          f = .line .sizeUnwritable ∧ ∃ bs, (r.via fun o => Carrier.receive o id).1 = some bs ∧
            l.codec.Oversized (.bytes bs)) ∧
        ∀ m bytes answer, m.lineBytes = .ok bytes →
          (r.via fun o => Carrier.exchange o id bytes).1 = .ok answer →
          ((r.request k m).1 = .error f ↔
            f = .line .sizeUnwritable ∧ ∃ bs, answer = some bs ∧ l.codec.Oversized (.bytes bs)) := by
  refine ⟨fun m => Codec.decode_eq_message_iff, ?_, ?_, fun e => Codec.decode_eq_failed_iff,
    fun h => h.lt_length, ?_⟩
  · intro hunread hsmall
    cases hdecode : codec.decode line with
    | message m => exact absurd (Codec.decode_eq_message_iff.mp hdecode) (hunread m)
    | dropped reason => exact ⟨reason, rfl⟩
    | failed e => exact absurd (Codec.decode_eq_failed_iff.mp hdecode).2 hsmall
  · intro reason hdropped
    obtain ⟨hparse, hmalformed⟩ := Codec.decode_eq_dropped_iff.mp hdropped
    rw [Codec.isWordable_iff hparse, hmalformed]
    exact and_iff_right rfl
  · intro r k l id f hl hid
    constructor
    · exact receive_eq_error_iff hl hid
    · intro m bytes answer hbytes hanswer
      exact request_eq_error_iff hl hid hbytes hanswer

end Rig

/-- A header whose word count is a run of the highest digit. -/
def longCount (width : Nat) : List Char :=
  ['0', '7'] ++ ' ' :: (['0', '1'] ++ ' ' :: (['0', '2'] ++ ' ' :: List.replicate width 'F'))

theorem ascii_longCount (width : Nat) : ∀ c ∈ longCount width, c.toNat < 0x80 := by
  intro c hc
  simp only [longCount, List.mem_append, List.mem_cons, List.mem_replicate, List.not_mem_nil,
    or_false] at hc
  rcases hc with (rfl | rfl) | rfl | (rfl | rfl) | rfl | (rfl | rfl) | rfl | ⟨_, rfl⟩ <;> decide

theorem length_longCount (width : Nat) : (longCount width).length = width + 9 := by
  simp [longCount]

theorem words_longCount (k : Nat) :
    words (longCount (k + 1)) =
      [['0', '7'], ['0', '1'], ['0', '2'], List.replicate (k + 1) 'F'] := by
  have hrun : words (List.replicate (k + 1) 'F') = [List.replicate (k + 1) 'F'] := by
    apply words_of_no_blank
    · intro c hc
      rw [List.eq_of_mem_replicate hc]
      rfl
    · simp
  rw [longCount, words_append_blank _ _ _ rfl, words_append_blank _ _ _ rfl, words_append_blank _ _ _ rfl,
    hrun]
  rfl

theorem denotes_replicate (k : Nat) : Denotes (List.replicate (k + 1) 'F') (16 ^ (k + 1) - 1) := by
  have hdigit : HexDigit 'F' 15 := ⟨by decide, .inl rfl⟩
  induction k with
  | zero => exact .digit hdigit
  | succ k ih =>
      have hpos : 0 < 16 ^ (k + 1) := Nat.pow_pos (by decide)
      have hvalue : 16 ^ (k + 1 + 1) - 1 = 16 * (16 ^ (k + 1) - 1) + 15 := by omega
      rw [List.replicate_succ', hvalue]
      exact .snoc ih hdigit

/-- Such a line cannot be dropped, once its count has digits enough and the bound lets it pass. -/
theorem Codec.oversized_longCount {codec : Codec} {k : Nat}
    (hlimit : (k + 10 : Nat) ≤ codec.lineLimit.value)
    (hsize : 10 ^ Number.digitLimit ≤ 4 * (16 ^ (k + 1) - 1)) :
    codec.Oversized (.bytes (asciiBytes (longCount (k + 1)))) := by
  have hlength : (Line.bytes (asciiBytes (longCount (k + 1)))).length = k + 10 :=
    (List.length_map _).trans (length_longCount (k + 1))
  have hread : ReadUpTo (words (longCount (k + 1))) [['0', '7'], ['0', '1'], ['0', '2']]
      [List.replicate (k + 1) 'F'] := by
    refine ⟨words_longCount k, ?_, ?_⟩
    · rw [words_longCount]
      exact Nat.le_refl 4
    · intro token htoken
      simp only [List.mem_cons, List.not_mem_nil, or_false] at htoken
      rcases htoken with rfl | rfl | rfl
      · exact ⟨7, hexByte?_eq_some_iff.mp rfl⟩
      · exact ⟨1, hexByte?_eq_some_iff.mp rfl⟩
      · exact ⟨2, hexByte?_eq_some_iff.mp rfl⟩
  exact .intro (hlength ▸ hlimit) (asciiChars_asciiBytes 0 (ascii_longCount _)) hread rfl (denotes_replicate k) hsize

/-- A peer that answers with a word count of 3600 digits, within the bound that is set by default: the
line is not dropped, and receiving it fails. -/
theorem Rig.decode_outcome_long_count :
    ∃ r : Rig (Scripted Int) Int, (r.link? 0).map Link.phase = some .connected ∧
      Codec.decode {} (.bytes (asciiBytes (longCount 3600))) = .failed .sizeUnwritable ∧
      (r.receive 0).1 = .error (.line .sizeUnwritable) := by
  have hsize : 10 ^ Number.digitLimit ≤ 4 * (16 ^ (3599 + 1) - 1) := by decide +kernel
  have hline : Codec.Oversized {} (.bytes (asciiBytes (longCount 3600))) :=
    Codec.oversized_longCount (by decide) hsize
  let link : Link Int := {
    target := .of "10.0.0.2" 7000, enabled := true, phase := .connected, enteredAt := 0
    transport := some 0, backoff := .start 1 2 30, health := ⟨5, 0⟩, status := ⟨0, 0⟩ }
  let rig : Rig (Scripted Int) Int := {
    outside := { clock := 0, up := #[true], replies := [asciiBytes (longCount 3600)] }
    stations := #[⟨link, ⟨3, 1, defaultLineLimit⟩, .log⟩] }
  obtain ⟨-, -, -, hfailed, -, hreceive⟩ :=
    Rig.decode_outcome (σ := Scripted Int) {} (.bytes (asciiBytes (longCount 3600)))
  refine ⟨rig, rfl, (hfailed _).mpr ⟨rfl, hline⟩, ?_⟩
  exact (hreceive rig 0 link 0 _ rfl rfl).1.mpr ⟨rfl, _, rfl, hline⟩

end PeripheralLink

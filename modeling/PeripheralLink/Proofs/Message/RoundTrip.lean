import Mathlib.Algebra.Group.Nat.Defs
import Mathlib.Tactic.Common
import PeripheralLink.Message.Line
import PeripheralLink.Proofs.Message.Wording
import PeripheralLink.Proofs.Text.HexField
/-!
What the line of a message reads back as, for every message that field assignment can make.  A message
has a line exactly when its declared bytes fit the buffer.  That line reads back as the same message when
the header fields are bytes and the line is within the bound of the reader, and as no message at all
otherwise: `Codec.decode_lineBytes`.

The two halves meet at `Carried`, the tokens that splitting a line gives back.
-/

namespace PeripheralLink

open Text

/-- A token that survives in a line: it is not empty, it is ASCII and it has no blank. -/
structure Carried (token : List Char) : Prop where
  ne_nil : token ≠ []
  ascii : ∀ c ∈ token, c.toNat < 0x80
  solid : ∀ c ∈ token, isBlank c = false

theorem hexDigit_plain : ∀ d < 16, (hexDigit d).toNat < 0x80 ∧ isBlank (hexDigit d) = false := by
  decide

theorem carried_hexField (n : Int) : Carried (hexField n) := by
  have hplain : ∀ c ∈ hexField n, c.toNat < 0x80 ∧ isBlank c = false := by
    intro c hc
    rcases mem_hexField hc with rfl | ⟨d, hd, rfl⟩
    · decide
    · exact hexDigit_plain d hd
  exact ⟨hexField_ne_nil n, fun c hc => (hplain c hc).1, fun c hc => (hplain c hc).2⟩

theorem carried_hexByte (b : UInt8) : Carried (hexByte b) := by
  rw [← hexField_toNat]
  exact carried_hexField _

theorem carried_tokens (m : Message) : ∀ token ∈ m.tokens, Carried token := by
  intro token htoken
  rw [Message.tokens, List.mem_append, List.mem_map] at htoken
  rcases htoken with hheader | ⟨b, _, rfl⟩
  · simp only [List.mem_cons, List.not_mem_nil, or_false] at hheader
    rcases hheader with rfl | rfl | rfl | rfl <;> exact carried_hexField _
  · exact carried_hexByte b

theorem words_intercalate {tokens : List (List Char)} (h : ∀ token ∈ tokens, Carried token) :
    words (List.intercalate [' '] tokens ++ ['\r', '\n']) = tokens := by
  induction tokens with
  | nil => decide
  | cons token rest ih =>
      have hfirst := h token List.mem_cons_self
      have hword : words token = [token] := words_of_no_blank token hfirst.solid hfirst.ne_nil
      cases rest with
      | nil =>
          have hend : words ['\n'] = [] := by decide
          rw [List.intercalate_singleton, words_append_blank token ['\n'] '\r' rfl, hword, hend]
          rfl
      | cons next rest =>
          have htail := ih fun t ht => h t (List.mem_cons_of_mem token ht)
          rw [List.intercalate_cons_cons, List.append_assoc, List.append_assoc, List.singleton_append,
            words_append_blank token _ ' ' rfl, hword, htail]
          rfl

theorem ascii_intercalate {tokens : List (List Char)} (h : ∀ token ∈ tokens, Carried token) :
    ∀ c ∈ List.intercalate [' '] tokens, c.toNat < 0x80 := by
  induction tokens with
  | nil => simp
  | cons token rest ih =>
      have hfirst := (h token List.mem_cons_self).ascii
      cases rest with
      | nil => simpa using hfirst
      | cons next rest =>
          have htail := ih fun t ht => h t (List.mem_cons_of_mem token ht)
          intro c hc
          simp only [List.intercalate_cons_cons, List.mem_append, List.mem_singleton] at hc
          rcases hc with (hc | rfl) | hc
          · exact hfirst c hc
          · decide
          · exact htail c hc

theorem length_intercalate_pairs {tokens : List (List Char)} (hne : tokens ≠ [])
    (h : ∀ token ∈ tokens, token.length = 2) :
    (List.intercalate [' '] tokens).length + 1 = 3 * tokens.length := by
  induction tokens with
  | nil => exact absurd rfl hne
  | cons token rest ih =>
      have hfirst := h token List.mem_cons_self
      cases rest with
      | nil => simp [hfirst]
      | cons next rest =>
          have htail := ih (by simp) fun t ht => h t (List.mem_cons_of_mem token ht)
          simp only [List.intercalate_cons_cons, List.length_append, List.length_cons, List.length_nil,
            hfirst] at htail ⊢
          omega

theorem asciiChars_asciiBytes (position : Nat) {cs : List Char} (h : ∀ c ∈ cs, c.toNat < 0x80) :
    asciiChars position (asciiBytes cs) = .ok cs := by
  induction cs generalizing position with
  | nil => rfl
  | cons c rest ih =>
      have hc : c.toNat < 0x80 := h c List.mem_cons_self
      have htail := ih (position + 1) fun d hd => h d (List.mem_cons_of_mem c hd)
      have hbyte : (UInt8.ofNat c.toNat).toNat = c.toNat := by
        simp only [UInt8.toNat_ofNat']
        omega
      simp only [asciiBytes, List.map_cons, asciiChars, hbyte, hc, ↓reduceIte] at htail ⊢
      rw [htail, Char.ofNat_toNat]
      rfl

namespace Message

variable {m m' : Message}

def HeaderFits (m : Message) : Prop :=
  ∀ n ∈ [m.command, m.destination, m.origin, m.wordCount], 0 ≤ n ∧ n ≤ 255

instance (m : Message) : Decidable m.HeaderFits := by
  unfold HeaderFits
  infer_instance

theorem headerFits_iff :
    m.HeaderFits ↔ (0 ≤ m.command ∧ m.command ≤ 255) ∧ (0 ≤ m.destination ∧ m.destination ≤ 255) ∧
      (0 ≤ m.origin ∧ m.origin ≤ 255) ∧ (0 ≤ m.wordCount ∧ m.wordCount ≤ 255) := by
  simp [HeaderFits]

theorem lineBytes_of_le (hcount : m.wordCount ≤ 256) :
    m.lineBytes = .ok (asciiBytes (List.intercalate [' '] m.tokens ++ ['\r', '\n'])) := by
  have hfits : ¬ (capacity : Int) < m.dataSize := by
    simp only [dataSize, capacity, wordSize]
    omega
  rw [lineBytes, line, if_neg hfits]
  rfl

theorem isWritable_dataSize {k : Nat} (hk : k < Number.digitLimit)
    (hbound : m.wordCount.natAbs < 10 ^ k) : Number.isWritable m.dataSize = true := by
  rw [Number.isWritable_iff]
  unfold Number.unwritable
  -- the power of the limit itself is not to be evaluated
  generalize Number.digitLimit = limit at hk ⊢
  calc m.dataSize.natAbs = m.wordCount.natAbs * wordSize := Int.natAbs_mul _ _
    _ < 10 ^ k * 10 := Nat.mul_lt_mul_of_lt_of_le hbound (by decide) (by decide)
    _ = 10 ^ (k + 1) := (Nat.pow_succ ..).symm
    _ ≤ 10 ^ limit := Nat.pow_le_pow_right (by decide) hk

/-- The size that a message without a line declares has few enough digits to be reported. -/
theorem lineBytes_of_lt (hcount : 256 < m.wordCount) (hbound : m.wordCount.natAbs < 10 ^ 4000) :
    m.lineBytes = .error (.dataTooLarge m.dataSize) := by
  have hover : (capacity : Int) < m.dataSize := by
    simp only [dataSize, capacity, wordSize]
    omega
  have hwritable := isWritable_dataSize (by decide) hbound
  rw [lineBytes, line, if_pos hover, FrameError.reporting, if_pos hwritable]
  rfl

theorem data_of_wordCount {n : Nat} (hcount : m.wordCount = n) :
    m.data = m.payload.toList.take (n * wordSize) := by
  have hbound : sliceBound capacity m.dataSize = min (n * wordSize) capacity := by
    have hnat : m.dataSize = ((n * wordSize : Nat) : Int) := by rw [dataSize, hcount, Int.natCast_mul]
    have hnonneg : ¬ m.dataSize < 0 := by omega
    rw [sliceBound, if_neg hnonneg, hnat, Int.toNat_natCast]
  rw [data, hbound, List.take_eq_take_iff, Vector.length_toList, Nat.min_assoc, Nat.min_self]

theorem length_data (hfits : m.HeaderFits) : (m.data.length : Int) = 4 * m.wordCount := by
  have hcount := (headerFits_iff.mp hfits).2.2.2
  obtain ⟨n, hn⟩ := Int.eq_ofNat_of_zero_le hcount.1
  rw [data_of_wordCount hn, List.length_take, Vector.length_toList, wordSize, capacity]
  omega

/-- Three characters for each token, and one more. -/
theorem length_lineBytes (hfits : m.HeaderFits) :
    ((asciiBytes (List.intercalate [' '] m.tokens ++ ['\r', '\n'])).length : Int) =
      13 + 12 * m.wordCount := by
  have hpairs : ∀ token ∈ m.tokens, token.length = 2 := by
    intro token htoken
    rw [tokens, List.mem_append, List.mem_map] at htoken
    rcases htoken with hheader | ⟨b, _, rfl⟩
    · have hfield : ∃ n ∈ [m.command, m.destination, m.origin, m.wordCount], hexField n = token := by
        simpa [eq_comm] using hheader
      obtain ⟨n, hn, rfl⟩ := hfield
      obtain ⟨b, rfl⟩ := exists_byte (hfits n hn)
      rw [hexField_toNat]
      rfl
    · rfl
  have hlength := length_intercalate_pairs (by simp [tokens]) hpairs
  have hdata := length_data hfits
  simp only [tokens, List.length_append, List.length_cons, List.length_nil, List.length_map,
    asciiBytes] at hlength ⊢
  omega

end Message

theorem readByte_hexField_of_not (field : LineField) {n : Int} (hn : ¬ (0 ≤ n ∧ n ≤ 255)) :
    readByte field (hexField n) = .error (.notHexByte field (hexField n)) := by
  rw [readByte, hexByte?_hexField, if_neg hn]

theorem readByte_hexField (field : LineField) (b : UInt8) :
    readByte field (hexField b.toNat) = .ok b := by
  rw [hexField_toNat, readByte, hexByte?_hexByte]

theorem readCount_hexField (b : UInt8) : readCount (hexField b.toNat) = .ok b := by
  have hfits : ¬ capacity < b.toNat * wordSize := by
    have hb := b.toNat_lt
    simp only [capacity, wordSize]
    omega
  rw [readCount, hexNumber?_hexField, if_pos (Int.natCast_nonneg _)]
  exact (if_neg hfits).trans (readByte_hexField _ b)

/-- A count that is no byte is refused, for its sign or, where the buffer holds its words, for its
digits. -/
theorem readCount_hexField_of_not {n : Int} (hle : n ≤ 256) (hn : ¬ (0 ≤ n ∧ n ≤ 255)) :
    ∃ e, readCount (hexField n) = .error e ∧ e.isMalformed = true := by
  by_cases hneg : 0 ≤ n
  · have hfits : ¬ capacity < n.toNat * wordSize := by
      simp only [capacity, wordSize]
      omega
    refine ⟨.notHexByte (.header .wordCount) (hexField n), ?_, rfl⟩
    rw [readCount, hexNumber?_hexField, if_pos hneg]
    exact (if_neg hfits).trans (readByte_hexField_of_not _ hn)
  · refine ⟨.notHexCount (hexField n), ?_, rfl⟩
    rw [readCount, hexNumber?_hexField, if_neg hneg]

theorem readData_hexByte (index : Nat) (bytes : List UInt8) :
    readData index (bytes.map hexByte) = .ok bytes := by
  induction bytes generalizing index with
  | nil => rfl
  | cons b rest ih =>
      simp only [List.map_cons, readData, readByte, hexByte?_hexByte, ih]
      rfl

theorem take_ofList {bytes : List UInt8} (hlength : bytes.length ≤ capacity) :
    (Payload.ofList bytes).toList.take bytes.length = bytes := by
  apply List.ext_getElem
  · simp [Nat.min_eq_left hlength]
  · intro i h₁ h₂
    simp [Payload.ofList, h₂]

/-- The tokens of a message whose header fits read back as that message. -/
theorem readTokens_tokens {m : Message} (hfits : m.HeaderFits) :
    ∃ m', readTokens m.tokens = .ok m' ∧ m'.same m = true := by
  obtain ⟨hcommand, hdestination, horigin, hcount⟩ := Message.headerFits_iff.mp hfits
  obtain ⟨command, hcommand⟩ := exists_byte hcommand
  obtain ⟨destination, hdestination⟩ := exists_byte hdestination
  obtain ⟨origin, horigin⟩ := exists_byte horigin
  obtain ⟨count, hcount⟩ := exists_byte hcount
  have hlength : m.data.length = count.toNat * wordSize := by
    have hdata := Message.length_data hfits
    rw [wordSize]
    omega
  have hle : m.data.length ≤ capacity := by
    rw [hlength]
    have hlt := count.toNat_lt
    simp only [capacity, wordSize]
    omega
  let m' : Message := {
    command := command.toNat
    destination := destination.toNat
    origin := origin.toNat
    wordCount := count.toNat
    payload := Payload.ofList m.data }
  have hdata : m'.data = m.data := by
    rw [Message.data_of_wordCount (m := m') rfl, ← hlength]
    exact take_ofList hle
  refine ⟨m', ?_, ?_⟩
  · have htake : (m.data.map hexByte).take (count.toNat * wordSize) = m.data.map hexByte :=
      List.take_of_length_le (by simp [hlength])
    simp only [Message.tokens, List.cons_append, List.nil_append, readTokens, hcommand, hdestination,
      horigin, hcount, readByte_hexField, readCount_hexField, List.length_map, hlength,
      Nat.lt_irrefl, ↓reduceIte, htake, readData_hexByte, bind, Except.bind, pure, Except.pure, m']
  · simp [Message.same, hdata, hcommand, hdestination, horigin, hcount, m']

/-- The tokens of a message whose header does not fit are refused. -/
theorem readTokens_tokens_of_not {m : Message} (hle : m.wordCount ≤ 256) (hfits : ¬ m.HeaderFits) :
    ∃ e, readTokens m.tokens = .error e ∧ e.isMalformed = true := by
  rw [Message.headerFits_iff] at hfits
  simp only [Message.tokens, List.cons_append, List.nil_append, readTokens]
  by_cases hcommand : 0 ≤ m.command ∧ m.command ≤ 255
  · obtain ⟨command, hcommand'⟩ := exists_byte hcommand
    by_cases hdestination : 0 ≤ m.destination ∧ m.destination ≤ 255
    · obtain ⟨destination, hdestination'⟩ := exists_byte hdestination
      by_cases horigin : 0 ≤ m.origin ∧ m.origin ≤ 255
      · obtain ⟨origin, horigin'⟩ := exists_byte horigin
        have hcount : ¬ (0 ≤ m.wordCount ∧ m.wordCount ≤ 255) := fun hcount =>
          hfits ⟨hcommand, hdestination, horigin, hcount⟩
        obtain ⟨e, he, hmalformed⟩ := readCount_hexField_of_not hle hcount
        refine ⟨e, ?_, hmalformed⟩
        rw [hcommand', hdestination', horigin']
        simp only [readByte_hexField, he, bind, Except.bind]
      · refine ⟨.notHexByte (.header .origin) (hexField m.origin), ?_, rfl⟩
        rw [hcommand', hdestination']
        simp only [readByte_hexField, readByte_hexField_of_not _ horigin, bind, Except.bind]
    · refine ⟨.notHexByte (.header .destination) (hexField m.destination), ?_, rfl⟩
      rw [hcommand']
      simp only [readByte_hexField, readByte_hexField_of_not _ hdestination, bind, Except.bind]
  · refine ⟨.notHexByte (.header .command) (hexField m.command), ?_, rfl⟩
    simp only [readByte_hexField_of_not _ hcommand, bind, Except.bind]

/-- A line within the bound is read by its tokens. -/
theorem Codec.parse_intercalate (codec : Codec) {tokens : List (List Char)}
    (htokens : ∀ token ∈ tokens, Carried token) :
    codec.parse (.bytes (asciiBytes (List.intercalate [' '] tokens ++ ['\r', '\n']))) =
      if codec.lineLimit.value <
          (asciiBytes (List.intercalate [' '] tokens ++ ['\r', '\n'])).length
      then .error (.lineTooLong (asciiBytes (List.intercalate [' '] tokens ++ ['\r', '\n'])).length
        codec.lineLimit)
      else readTokens tokens := by
  have hascii : ∀ c ∈ List.intercalate [' '] tokens ++ ['\r', '\n'], c.toNat < 0x80 := by
    intro c hc
    rw [List.mem_append] at hc
    rcases hc with hc | hc
    · exact ascii_intercalate htokens c hc
    · simp only [List.mem_cons, List.not_mem_nil, or_false] at hc
      rcases hc with rfl | rfl <;> decide
  simp only [parse, Line.length, Line.chars, asciiChars_asciiBytes 0 hascii, bind, Except.bind]
  split
  · rfl
  · rw [words_intercalate htokens]

theorem Codec.decode_of_parse_ok {codec : Codec} {line : Line} {m : Message}
    (hparse : codec.parse line = .ok m) : codec.decode line = .message m := by
  rw [decode, hparse]

theorem Codec.decode_of_parse_error {codec : Codec} {line : Line} {e : FrameError}
    (hparse : codec.parse line = .error e) (hmalformed : e.isMalformed = true) :
    codec.decode line = .dropped e := by
  rw [decode, hparse]
  exact if_pos hmalformed

/-- A message has a line exactly when its declared bytes fit the buffer.  Its line reads back as the
same message exactly when the header fields are bytes and the line is within the bound; otherwise the
line is dropped, so that no line reads back as another message.  The reason can be worded unless the bound
has too many digits. -/
theorem Codec.decode_lineBytes (codec : Codec) (m : Message) (hbound : m.wordCount.natAbs < 10 ^ 4000) :
    (m.lineBytes = .error (.dataTooLarge m.dataSize) ↔ 256 < m.wordCount) ∧
    (m.wordCount ≤ 256 → ∃ bytes, m.lineBytes = .ok bytes ∧
      ((∃ m', codec.decode (.bytes bytes) = .message m' ∧ m'.same m = true) ↔
        m.HeaderFits ∧ 13 + 12 * m.wordCount ≤ codec.lineLimit.value) ∧
      (¬ (m.HeaderFits ∧ 13 + 12 * m.wordCount ≤ codec.lineLimit.value) →
        ∃ reason, codec.decode (.bytes bytes) = .dropped reason ∧
          (Number.isWritable codec.lineLimit.value = true → reason.isWordable = true)) ∧
      ∀ m', codec.decode (.bytes bytes) = .message m' → m'.same m = true) := by
  constructor
  · constructor
    · intro herror
      by_contra hle
      rw [Message.lineBytes_of_le (Int.not_lt.mp hle)] at herror
      cases herror
    · intro hlt
      exact Message.lineBytes_of_lt hlt hbound
  intro hle
  refine ⟨_, Message.lineBytes_of_le hle, ?_⟩
  have hparse := codec.parse_intercalate (carried_tokens m)
  by_cases hback : m.HeaderFits ∧ 13 + 12 * m.wordCount ≤ codec.lineLimit.value
  · obtain ⟨m', hread, hsame⟩ := readTokens_tokens hback.1
    have hlength := Message.length_lineBytes hback.1
    rw [if_neg (by omega), hread] at hparse
    have hdecode := decode_of_parse_ok hparse
    refine ⟨⟨fun _ => hback, fun _ => ⟨m', hdecode, hsame⟩⟩, fun hnot => absurd hback hnot, ?_⟩
    intro m'' hother
    rw [hdecode, Decoded.message.injEq] at hother
    exact hother ▸ hsame
  · have herror : ∃ e, codec.parse (.bytes
        (asciiBytes (List.intercalate [' '] m.tokens ++ ['\r', '\n']))) = .error e ∧
        e.isMalformed = true := by
      rw [hparse]
      split
      · exact ⟨_, rfl, rfl⟩
      · rename_i hlimit
        apply readTokens_tokens_of_not hle
        intro hfits
        have hlength := Message.length_lineBytes hfits
        exact hback ⟨hfits, by omega⟩
    obtain ⟨e, he, hmalformed⟩ := herror
    have hdecode := decode_of_parse_error he hmalformed
    have hworded : Number.isWritable codec.lineLimit.value = true → e.isWordable = true :=
      fun hwritable => (Codec.isWordable_iff he).mpr ⟨hmalformed, fun _ => hwritable⟩
    refine ⟨⟨?_, fun hfits => absurd hfits hback⟩, fun _ => ⟨e, hdecode, hworded⟩, ?_⟩
    · rintro ⟨m', hmessage, _⟩
      rw [hdecode] at hmessage
      cases hmessage
    · intro m' hmessage
      rw [hdecode] at hmessage
      cases hmessage

/-- The largest message, at the bound of its line and one below it, and the message one word larger,
which has a line that never reads back. -/
theorem Codec.decode_lineBytes_largest :
    (∃ bytes, ({ wordCount := 255 } : Message).lineBytes = .ok bytes ∧
      (∃ m', Codec.decode ⟨(3073 : Int)⟩ (.bytes bytes) = .message m' ∧
        m'.same { wordCount := 255 } = true) ∧
      ∃ reason, Codec.decode ⟨(3072 : Int)⟩ (.bytes bytes) = .dropped reason) ∧
    ∃ bytes, ({ wordCount := 256 } : Message).lineBytes = .ok bytes ∧
      ∃ reason, Codec.decode {} (.bytes bytes) = .dropped reason := by
  have hpow {k : Nat} (hk : 3 ≤ k) : 10 ^ 3 ≤ 10 ^ k := Nat.pow_le_pow_right (by decide) hk
  have hbound (n : Int) (hn : n.natAbs < 10 ^ 3) : n.natAbs < 10 ^ 4000 :=
    Nat.lt_of_lt_of_le hn (hpow (by decide))
  obtain ⟨-, hwide⟩ :=
    Codec.decode_lineBytes ⟨(3073 : Int)⟩ { wordCount := 255 } (hbound _ (by decide))
  obtain ⟨-, hnarrow⟩ :=
    Codec.decode_lineBytes ⟨(3072 : Int)⟩ { wordCount := 255 } (hbound _ (by decide))
  obtain ⟨-, hover⟩ := Codec.decode_lineBytes {} { wordCount := 256 } (hbound _ (by decide))
  obtain ⟨bytes, hbytes, hback, -⟩ := hwide (by decide)
  obtain ⟨bytes', hbytes', -, hdropped, -⟩ := hnarrow (by decide)
  obtain ⟨bytes'', hbytes'', -, hrefused, -⟩ := hover (by decide)
  obtain rfl := Except.ok.inj (hbytes.symm.trans hbytes')
  obtain ⟨reason, hlong, -⟩ := hdropped (by decide)
  obtain ⟨reason', hlarge, -⟩ := hrefused (by decide)
  exact ⟨⟨bytes, hbytes, hback.mpr (by decide), reason, hlong⟩, bytes'', hbytes'', reason', hlarge⟩

end PeripheralLink

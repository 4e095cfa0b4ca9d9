import PeripheralLink.Proofs.Message.RoundTrip
/-!
The line of a message without its line end, which is what a reader of lines hands on.  A body has no line
feed, so lines can be told apart in a stream, it is read as the message itself, and no two messages that
differ have the same.
-/

namespace PeripheralLink

open Text

namespace Message

variable {a b : Message}

theorem same_iff :
    a.same b = true ↔ a.command = b.command ∧ a.destination = b.destination ∧ a.origin = b.origin ∧
      a.wordCount = b.wordCount ∧ a.data = b.data := by
  simp [same, and_assoc]

theorem HeaderFits.of_same (h : b.HeaderFits) (hsame : a.same b = true) : a.HeaderFits := by
  obtain ⟨hcommand, hdestination, horigin, hcount, -⟩ := same_iff.mp hsame
  rw [headerFits_iff] at h ⊢
  rw [hcommand, hdestination, horigin, hcount]
  exact h

/-- Equal messages have the same line, or fail to have one for the same reason. -/
theorem lineBytes_of_same (h : a.same b = true) : a.lineBytes = b.lineBytes := by
  obtain ⟨hcommand, hdestination, horigin, hcount, hdata⟩ := same_iff.mp h
  have htokens : a.tokens = b.tokens := by
    rw [tokens, tokens, hcommand, hdestination, horigin, hcount, hdata]
  have hsize : a.dataSize = b.dataSize := by rw [dataSize, dataSize, hcount]
  rw [lineBytes, lineBytes, line, line, htokens, hsize]

end Message

/-- The bytes of a message's line before its line end. -/
def Message.body (m : Message) : List UInt8 := asciiBytes (List.intercalate [' '] m.tokens)

theorem asciiBytes_append (cs ds : List Char) :
    asciiBytes (cs ++ ds) = asciiBytes cs ++ asciiBytes ds := List.map_append

theorem mem_intercalate {tokens : List (List Char)} {c : Char} (h : c ∈ List.intercalate [' '] tokens) :
    c = ' ' ∨ ∃ token ∈ tokens, c ∈ token := by
  induction tokens with
  | nil => simp at h
  | cons token rest ih =>
      cases rest with
      | nil => exact .inr ⟨token, List.mem_cons_self, by simpa using h⟩
      | cons next rest =>
          simp only [List.intercalate_cons_cons, List.mem_append, List.mem_singleton] at h
          rcases h with (h | h) | h
          · exact .inr ⟨token, List.mem_cons_self, h⟩
          · exact .inl h
          · rcases ih h with hblank | ⟨other, hmem, hc⟩
            · exact .inl hblank
            · exact .inr ⟨other, List.mem_cons_of_mem token hmem, hc⟩

namespace Message

variable {a b m : Message}

theorem line_of_headerFits (hfits : m.HeaderFits) :
    ∃ cs, m.line = .ok cs ∧ asciiBytes cs = m.body ++ lineEnd := by
  have hcount := (headerFits_iff.mp hfits).2.2.2
  have hsize : ¬ (capacity : Int) < m.dataSize := by
    simp only [dataSize, capacity, wordSize]
    omega
  exact ⟨_, if_neg hsize, asciiBytes_append _ _⟩

theorem lineBytes_of_headerFits (hfits : m.HeaderFits) : m.lineBytes = .ok (m.body ++ lineEnd) := by
  obtain ⟨cs, hline, hbytes⟩ := line_of_headerFits hfits
  rw [lineBytes, hline, ← hbytes]
  rfl

/-- A line is a body with its line end, also where the header is no header of bytes. -/
theorem eq_of_lineBytes {bytes : List UInt8} (h : m.lineBytes = .ok bytes) : bytes = m.body ++ lineEnd := by
  by_cases hsize : (capacity : Int) < m.dataSize
  · rw [lineBytes, line, if_pos hsize, FrameError.reporting] at h
    split at h <;> cases h
  · rw [lineBytes, line, if_neg hsize] at h
    exact (Except.ok.inj h).symm.trans (asciiBytes_append _ _)

/-- A body has no line feed: its tokens have no blank, and between them stand spaces. -/
theorem not_mem_body (m : Message) : 10 ∉ m.body := by
  intro hmem
  obtain ⟨c, hc, hbyte⟩ := List.mem_map.mp hmem
  have hascii := ascii_intercalate (carried_tokens m) c hc
  have hfeed : c = '\n' := by
    have hcode := congrArg UInt8.toNat hbyte
    have hsmall : c.toNat % 256 = 10 := by simpa using hcode
    rw [← Char.ofNat_toNat c, show c.toNat = 10 by omega]
  rcases mem_intercalate hc with rfl | ⟨token, htoken, hin⟩
  · exact absurd hfeed (by decide)
  · have hsolid := (carried_tokens m token htoken).solid c hin
    rw [hfeed] at hsolid
    exact absurd hsolid (by decide)

/-- The tokens of a line can be taken back from its body. -/
theorem words_body (m : Message) : words (List.intercalate [' '] m.tokens) = m.tokens := by
  have hline := words_intercalate (carried_tokens m)
  rwa [words_append_blank _ ['\n'] '\r' rfl, show words ['\n'] = [] by decide, List.append_nil] at hline

theorem length_body (hfits : m.HeaderFits) : (m.body.length : Int) + 2 = 13 + 12 * m.wordCount := by
  have hlength := length_lineBytes hfits
  rw [asciiBytes_append, List.length_append] at hlength
  exact hlength

/-- The longest line stays within the bound that is set by default. -/
theorem length_body_le (hfits : m.HeaderFits) : (m.body.length : Int) + 2 ≤ defaultLineLimit := by
  have hcount := (headerFits_iff.mp hfits).2.2.2
  have hlength := length_body hfits
  simp only [defaultLineLimit]
  omega

theorem tokens_eq_of_body_eq (h : a.body = b.body) : a.tokens = b.tokens := by
  have hchars := congrArg (asciiChars 0) h
  rw [body, body, asciiChars_asciiBytes 0 (ascii_intercalate (carried_tokens a)),
    asciiChars_asciiBytes 0 (ascii_intercalate (carried_tokens b)), Except.ok.injEq] at hchars
  rw [← words_body a, ← words_body b, hchars]

theorem same_of_tokens_eq (h : a.tokens = b.tokens) : a.same b = true := by
  simp only [tokens, List.cons_append, List.nil_append, List.cons.injEq] at h
  obtain ⟨hcommand, hdestination, horigin, hcount, hdata⟩ := h
  exact same_iff.mpr ⟨hexField_injective hcommand, hexField_injective hdestination,
    hexField_injective horigin, hexField_injective hcount, (List.map_inj_right hexByte_injective).mp hdata⟩

/-- Messages with the same body are equal, also where a header field is no byte. -/
theorem same_of_body_eq (h : a.body = b.body) : a.same b = true :=
  same_of_tokens_eq (tokens_eq_of_body_eq h)

end Message

/-- The body of a message within the bound is read as the message. -/
theorem Codec.decode_body {codec : Codec} {m : Message} (hfits : m.HeaderFits)
    (hlimit : codec.lineLimit.value = defaultLineLimit) :
    ∃ m', codec.decode (.bytes m.body) = .message m' ∧ m'.same m = true := by
  obtain ⟨m', hread, hsame⟩ := readTokens_tokens hfits
  have hshort : ¬ codec.lineLimit.value < (Line.bytes m.body).length := by
    have hbody := Message.length_body_le hfits
    rw [hlimit, Line.length]
    omega
  have hchars := asciiChars_asciiBytes 0 (ascii_intercalate (carried_tokens m))
  refine ⟨m', decode_of_parse_ok ?_, hsame⟩
  rw [parse, if_neg hshort]
  simp only [Line.chars, Message.body, hchars, bind, Except.bind, Message.words_body, hread]

end PeripheralLink

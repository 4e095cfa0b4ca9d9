import PeripheralLink.Message.Line
/-!
Which errors of a line can be worded.  An error shows the line bound or what has been read, and `sizeUnwritable` is
the one that stands for a size with too many digits to be shown; so whether any other error can be worded is up to
the bound alone: `Codec.isWordable_iff`.
-/

namespace PeripheralLink

theorem eq_error_of_map_eq_error {ε α β : Type} {x : Except ε α} {f : α → β} {e : ε} (h : x.map f = .error e) :
    x = .error e := by
  cases x with
  | error e' =>
      cases h
      rfl
  | ok a => cases h

theorem eq_error_of_bind_eq_error {ε α β : Type} {x : Except ε α} {f : α → Except ε β} {e : ε}
    (h : x >>= f = .error e) : x = .error e ∨ ∃ a, x = .ok a ∧ f a = .error e := by
  cases x with
  | error e' =>
      cases h
      exact .inl rfl
  | ok a => exact .inr ⟨a, rfl, h⟩

variable {e : FrameError}

theorem isWordable_of_asciiChars {bs : List UInt8} {position : Nat} (h : asciiChars position bs = .error e) :
    e.isWordable = e.isMalformed := by
  induction bs generalizing position with
  | nil => cases h
  | cons b rest ih =>
      rw [asciiChars] at h
      split at h
      · exact ih (eq_error_of_map_eq_error h)
      · cases h
        rfl

theorem isWordable_of_readByte {field : LineField} {token : List Char} (h : readByte field token = .error e) :
    e.isWordable = e.isMalformed := by
  unfold readByte at h
  split at h
  · cases h
  · cases h
    rfl

theorem isWordable_of_readData {tokens : List (List Char)} {index : Nat} (h : readData index tokens = .error e) :
    e.isWordable = e.isMalformed := by
  induction tokens generalizing index with
  | nil => cases h
  | cons token rest ih =>
      rw [readData] at h
      split at h
      · rename_i e' hbyte
        obtain rfl : e' = e := Except.error.inj h
        exact isWordable_of_readByte hbyte
      · exact ih (eq_error_of_map_eq_error h)

theorem isWordable_of_readCount {token : List Char} (h : readCount token = .error e) :
    e.isWordable = e.isMalformed := by
  unfold readCount at h
  split at h
  · cases h
    rfl
  · split at h
    · rw [← Except.error.inj h, FrameError.reporting]
      split <;> rfl
    · exact isWordable_of_readByte h

theorem isWordable_of_readTokens {tokens : List (List Char)} (h : readTokens tokens = .error e) :
    e.isWordable = e.isMalformed := by
  unfold readTokens at h
  split at h
  · rcases eq_error_of_bind_eq_error h with hcommand | ⟨_, -, h⟩
    · exact isWordable_of_readByte hcommand
    rcases eq_error_of_bind_eq_error h with hdestination | ⟨_, -, h⟩
    · exact isWordable_of_readByte hdestination
    rcases eq_error_of_bind_eq_error h with horigin | ⟨_, -, h⟩
    · exact isWordable_of_readByte horigin
    rcases eq_error_of_bind_eq_error h with hcount | ⟨count, -, h⟩
    · exact isWordable_of_readCount hcount
    dsimp only at h
    split at h
    · cases h
      rfl
    · rcases eq_error_of_bind_eq_error h with hdata | ⟨_, -, h⟩
      · exact isWordable_of_readData hdata
      · cases h
  · cases h
    rfl

/-- An error can be worded if its size can, and the bound where it is the bound that is exceeded. -/
theorem Codec.isWordable_iff {codec : Codec} {line : Line} (h : codec.parse line = .error e) :
    e.isWordable = true ↔ e.isMalformed = true ∧
      (codec.lineLimit.value < line.length → Number.isWritable codec.lineLimit.value = true) := by
  unfold parse at h
  by_cases hlong : codec.lineLimit.value < line.length
  · rw [if_pos hlong] at h
    obtain rfl : .lineTooLong line.length codec.lineLimit = e := Except.error.inj h
    simp [FrameError.isWordable, FrameError.isMalformed, hlong]
  · rw [if_neg hlong] at h
    have hread : e.isWordable = e.isMalformed := by
      rcases eq_error_of_bind_eq_error h with hchars | ⟨cs, -, h⟩
      · cases line with
        | text cs => cases hchars
        | bytes bs => exact isWordable_of_asciiChars hchars
      · exact isWordable_of_readTokens h
    simp [hread, hlong]

end PeripheralLink

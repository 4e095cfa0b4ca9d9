import PeripheralLink.Proofs.Message.Congruence
/-!
What a line tells of its message.  Two messages that have lines have the same line exactly if they are equal,
whatever integers their header fields are: each field and each byte in use can be taken back from its token.
So equality of messages leaves out just the bytes of the buffer on which the line does not depend.

The main statement is `Message.lines_eq_iff`.
-/

namespace PeripheralLink

namespace Message

variable {a b m : Message} {bytes bytes' : List UInt8} {j : Nat}

/-- Only a message that declares more than the buffer holds has no line. -/
theorem exists_lineBytes_iff : (∃ bytes, m.lineBytes = .ok bytes) ↔ m.dataSize ≤ capacity := by
  rw [lineBytes, line]
  constructor
  · rintro ⟨bytes, h⟩
    by_contra hsize
    rw [if_pos (Int.not_le.mp hsize)] at h
    cases h
  · intro hsize
    exact ⟨_, by rw [if_neg (Int.not_lt.mpr hsize)]; rfl⟩

/-- Messages with the same line are equal, and equal messages have the same line. -/
theorem same_iff_of_lineBytes (ha : a.lineBytes = .ok bytes) (hb : b.lineBytes = .ok bytes') :
    bytes = bytes' ↔ a.same b = true := by
  constructor
  · intro h
    rw [eq_of_lineBytes ha, eq_of_lineBytes hb, List.append_cancel_right_eq] at h
    exact same_of_body_eq h
  · intro h
    rw [lineBytes_of_same h, hb] at ha
    exact (Except.ok.inj ha).symm

theorem same_equivalence : Equivalence fun a b : Message => a.same b = true where
  refl a := same_iff.mpr ⟨rfl, rfl, rfl, rfl, rfl⟩
  symm := by
    intro a b h
    obtain ⟨hcommand, hdestination, horigin, hcount, hdata⟩ := same_iff.mp h
    exact same_iff.mpr ⟨hcommand.symm, hdestination.symm, horigin.symm, hcount.symm, hdata.symm⟩
  trans := by
    intro a b c hab hbc
    obtain ⟨hcommand, hdestination, horigin, hcount, hdata⟩ := same_iff.mp hab
    obtain ⟨hcommand', hdestination', horigin', hcount', hdata'⟩ := same_iff.mp hbc
    exact same_iff.mpr ⟨hcommand.trans hcommand', hdestination.trans hdestination', horigin.trans horigin',
      hcount.trans hcount', hdata.trans hdata'⟩

/-- A byte of the buffer is transmitted: assigning it can change the line. -/
def Transmits (m : Message) (j : Nat) : Prop :=
  ∃ value m', m.poke j value = .ok m' ∧ m'.lineBytes ≠ m.lineBytes

theorem poke_eq_ok {value : Int} {m' : Message} (h : m.poke j value = .ok m') :
    ∃ hj : j < capacity, m' = { m with payload := m.payload.set j (UInt8.ofNat value.toNat) hj } := by
  have hplace : ¬ (j : Int) < 0 := by omega
  rw [poke] at h
  split at h
  · cases h
  split at h
  · cases h
  simp only [hplace, if_false, Int.toNat_natCast] at h
  split at h
  · exact ⟨And.right ‹_›, (Except.ok.inj h).symm⟩
  · cases h

theorem poke_toNat (hj : j < capacity) (value : UInt8) :
    m.poke j value.toNat = .ok { m with payload := m.payload.set j value hj } := by
  have hbyte := value.toNat_lt
  have hbound : addressBound = 2 ^ 63 := rfl
  have haddress : ¬ ((j : Int) < -addressBound ∨ addressBound ≤ j) := by
    simp only [hbound, capacity] at hj ⊢
    omega
  have hvalue : ¬ ((value.toNat : Int) < 0 ∨ 255 < (value.toNat : Int)) := by omega
  have hplace : ¬ (j : Int) < 0 := by omega
  simp only [poke, haddress, hvalue, hplace, if_false, Int.toNat_natCast, UInt8.ofNat_toNat,
    Int.natCast_nonneg, true_and, hj, dite_true]

theorem length_data_le (m : Message) : m.data.length ≤ capacity := by
  rw [data, List.length_take, Vector.length_toList]
  exact Nat.min_le_right _ _

/-- A message that has a line transmits the bytes in use. -/
theorem transmits_iff (hm : m.lineBytes = .ok bytes) : m.Transmits j ↔ j < m.data.length := by
  constructor
  · rintro ⟨value, m', hpoke, hline⟩
    obtain ⟨hj, rfl⟩ := poke_eq_ok hpoke
    by_contra hunused
    refine hline (lineBytes_of_same (same_equivalence.symm (same_iff_sameHeader.mpr ⟨⟨rfl, rfl, rfl, rfl⟩, ?_⟩)))
    intro i hi hin
    exact (Vector.getElem_set_ne hj hi (by omega)).symm
  · intro hin
    have hj : j < capacity := Nat.lt_of_lt_of_le hin (length_data_le m)
    refine ⟨_, _, poke_toNat hj (m.payload[j] + 1), fun hline => ?_⟩
    have hsame := (same_iff_of_lineBytes hm (hline.trans hm)).mp rfl
    have hbyte := (same_iff_sameHeader.mp hsame).2 j hj hin
    rw [Vector.getElem_set_self] at hbyte
    exact absurd hbyte (by simp)

/-- A negative word count cuts from the end of the buffer. -/
theorem length_data_of_line (hm : m.lineBytes = .ok bytes) :
    (m.data.length : Int) = max 0 (if m.wordCount < 0 then capacity + m.dataSize else m.dataSize) := by
  have hsize := exists_lineBytes_iff.mp ⟨bytes, hm⟩
  have hneg : m.dataSize < 0 ↔ m.wordCount < 0 := by
    simp only [dataSize, wordSize]
    omega
  rw [length_data_eq, sliceBound]
  by_cases hcount : m.wordCount < 0
  · rw [if_pos (hneg.mpr hcount), if_pos hcount]
    omega
  · rw [if_neg (mt hneg.mp hcount), if_neg hcount]
    have hnonneg := mt hneg.mp hcount
    omega

/-- The line of a message is what equality of messages depends on, for header fields of any size and sign.
Messages that have lines are equal exactly if these are the same.  Equality is an equivalence; it looks at the
header and at the bytes transmitted, and at nothing else.  They are the bytes of the words declared, from the
first on; a negative count leaves out that many words at the end of the buffer. -/
theorem lines_eq_iff (ha : a.lineBytes = .ok bytes) (hb : b.lineBytes = .ok bytes') :
    (bytes = bytes' ↔ a.same b = true) ∧
      (Equivalence fun a b : Message => a.same b = true) ∧
      (a.same b = true ↔ SameHeader a b ∧
        ∀ j (hj : j < capacity), a.Transmits j → a.payload[j] = b.payload[j]) ∧
      ∀ j, a.Transmits j ↔
        (j : Int) < if a.wordCount < 0 then capacity + a.dataSize else a.dataSize := by
  refine ⟨same_iff_of_lineBytes ha hb, same_equivalence, ?_, fun j => ?_⟩
  · simp only [transmits_iff ha, same_iff_sameHeader]
  · have hlength := length_data_of_line ha
    rw [transmits_iff ha]
    omega

/-- Two messages with negative and long header fields, whose buffers differ at the first byte that is not
transmitted: a count of minus 250 words leaves 24 bytes.  They are equal and have one line. -/
theorem lines_eq_iff_negative :
    ∃ a b : Message, a.command = -300 ∧ a.destination = 4096 ∧ a.wordCount = -250 ∧ a.payload[24] ≠ b.payload[24] ∧
      a.same b = true ∧ (∃ bytes, a.lineBytes = .ok bytes ∧ b.lineBytes = .ok bytes) ∧
      a.Transmits 23 ∧ ¬ a.Transmits 24 := by
  have hsize : (-250 : Int) * wordSize ≤ capacity := by decide
  let a : Message := { command := -300, destination := 4096, origin := -1, wordCount := -250 }
  have hroom : 24 < capacity := by decide
  let b : Message := { a with payload := a.payload.set 24 7 hroom }
  obtain ⟨bytes, ha⟩ := exists_lineBytes_iff.mpr (show a.dataSize ≤ capacity from hsize)
  obtain ⟨bytes', hb⟩ := exists_lineBytes_iff.mpr (show b.dataSize ≤ capacity from hsize)
  obtain ⟨hlines, -, hequal, htransmits⟩ := lines_eq_iff ha hb
  have hsame : a.same b = true := hequal.mpr ⟨⟨rfl, rfl, rfl, rfl⟩, fun j hj hin => by
    have hplace : (j : Int) < 24 := (htransmits j).mp hin
    exact (Vector.getElem_set_ne (x := 7) hroom hj (by omega)).symm⟩
  refine ⟨a, b, rfl, rfl, rfl, ?_, hsame, ⟨bytes, ha, ?_⟩, (htransmits 23).mpr (by decide),
    mt (htransmits 24).mp (by decide)⟩
  · rw [Vector.getElem_set_self, Vector.getElem_replicate]
    decide
  · rw [hlines.mpr hsame, hb]

end Message

end PeripheralLink

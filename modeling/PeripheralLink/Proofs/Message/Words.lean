import Mathlib.Algebra.Group.Nat.Defs
import Mathlib.Algebra.Ring.Int.Defs
import Mathlib.Tactic.Common
import PeripheralLink.Companion.Reply
/-!
Words written into a payload and read back.  `Message.setWords_of_wordCount` is the law of a message whose
words are written one after the other; the description of a device is such a message.
-/

namespace PeripheralLink

/-- A word is made up of its bytes, the least significant first. -/
theorem sum_wordByte (word : Nat) :
    (wordByte word 0).toNat + 256 * (wordByte word 1).toNat + 65536 * (wordByte word 2).toNat +
      16777216 * (wordByte word 3).toNat = word % 2 ^ 32 := by
  simp only [wordByte, UInt8.toNat_ofNat', show Nat.pow 256 0 = 1 from rfl,
    show Nat.pow 256 1 = 256 from rfl, show Nat.pow 256 2 = 65536 from rfl,
    show Nat.pow 256 3 = 16777216 from rfl]
  omega

/-- Writing a word sets that word, as far as it fits, and leaves the others. -/
theorem Payload.readWord_writeWord (p : Payload) (word index other : Nat)
    (h : other * wordSize + wordSize ≤ capacity) :
    (p.writeWord word index).readWord other h =
      if other = index then word % 2 ^ 32 else p.readWord other h := by
  have hplace (place : Nat) (hlt : place < wordSize) :
      (other * wordSize + place) / wordSize = other ∧ (other * wordSize + place) % wordSize = place := by
    simp only [wordSize] at hlt ⊢
    omega
  obtain ⟨hfirst, hfirst'⟩ := hplace 0 (by decide)
  obtain ⟨hsecond, hsecond'⟩ := hplace 1 (by decide)
  obtain ⟨hthird, hthird'⟩ := hplace 2 (by decide)
  obtain ⟨hfourth, hfourth'⟩ := hplace 3 (by decide)
  rw [Nat.add_zero] at hfirst hfirst'
  simp only [readWord, writeWord, Vector.getElem_ofFn, hfirst, hsecond, hthird, hfourth, hfirst',
    hsecond', hthird', hfourth']
  split
  · exact sum_wordByte word
  · rfl

namespace Message

variable {m : Message} {index : Nat}

/-- A word in use, as the payload has it. -/
theorem getWord_of_lt (m : Message) (hlt : index < maxWords) (hcount : (index : Int) < m.wordCount) :
    ∃ h, m.getWord (index : Int) = .ok (m.payload.readWord index h) := by
  have hfits : index * wordSize + wordSize ≤ capacity := by
    simp only [maxWords, wordSize, capacity] at hlt ⊢
    omega
  have hplace : ¬ ((index : Int) < 0 ∨ m.wordCount ≤ index) := by omega
  have haddress : ¬ addressBound ≤ (index : Int) * wordSize := by
    simp only [addressBound, show Nat.pow 2 63 = 9223372036854775808 from rfl, wordSize, maxWords] at hlt ⊢
    omega
  refine ⟨hfits, ?_⟩
  simp only [getWord, hplace, haddress, ↓reduceIte, Int.toNat_natCast, hfits, ↓reduceDIte]

/-- Writing the word after the last one raises the count by one. -/
theorem setWord_of_wordCount (value : Int) (hcount : m.wordCount = index) (hlt : index < maxWords) :
    m.setWord value index =
      { m with
        wordCount := (index + 1 : Nat)
        countIsTruth := false
        payload := m.payload.writeWord (value % Nat.pow 2 32).toNat index } := by
  have hplace : ¬ ((index : Int) < 0 ∨ (maxWords : Int) ≤ index) := by omega
  have hle : m.wordCount ≤ index := by omega
  simp only [setWord, hplace, hle, ↓reduceIte, Int.toNat_natCast]
  rfl

/-- Words written one after the other behind those of a message: the header keeps all but the count, the
words that were there stay, and the new ones follow. -/
theorem setWords_of_wordCount (words : List Int) (hcount : m.wordCount = index)
    (hroom : index + words.length ≤ maxWords) :
    ((m.setWords index words).command = m.command ∧
      (m.setWords index words).destination = m.destination ∧
      (m.setWords index words).origin = m.origin ∧
      (m.setWords index words).wordCount = (index + words.length : Nat)) ∧
    (∀ i < index, (m.setWords index words).getWord (i : Int) = m.getWord (i : Int)) ∧
    ∀ i (hi : i < words.length),
      (m.setWords index words).getWord ((index + i : Nat) : Int) = .ok (words[i] % 2 ^ 32).toNat := by
  induction words generalizing m index with
  | nil => exact ⟨⟨rfl, rfl, rfl, hcount⟩, fun _ _ => rfl, nofun⟩
  | cons word rest ih =>
      rw [List.length_cons] at hroom
      have hlt : index < maxWords := by omega
      have hset := setWord_of_wordCount word hcount hlt
      obtain ⟨⟨hcommand, hdestination, horigin, htotal⟩, hkept, hnew⟩ :=
        @ih (m.setWord word index) (index + 1) (by rw [hset]) (by omega)
      have hwords : m.setWords index (word :: rest) =
          (m.setWord word index).setWords (index + 1 : Nat) rest := rfl
      rw [hwords]
      refine ⟨⟨?_, ?_, ?_, ?_⟩, ?_, ?_⟩
      · rw [hcommand, hset]
      · rw [hdestination, hset]
      · rw [horigin, hset]
      · rw [htotal, List.length_cons]
        congr 1
        omega
      · intro i hi
        obtain ⟨h, hword⟩ := m.getWord_of_lt (show i < maxWords by omega) (by omega)
        obtain ⟨_, hword'⟩ := (m.setWord word index).getWord_of_lt (show i < maxWords by omega)
          (by rw [hset]; dsimp only; omega)
        rw [hkept i (by omega), hword, hword', hset, Payload.readWord_writeWord, if_neg (by omega)]
      · intro i hi
        cases i with
        | zero =>
            obtain ⟨_, hword⟩ := (m.setWord word index).getWord_of_lt hlt
              (by rw [hset]; dsimp only; omega)
            rw [show index + 0 = index from rfl, hkept index (by omega), hword, hset,
              Payload.readWord_writeWord, if_pos rfl, List.getElem_cons_zero]
            congr 1
            have hpow : Nat.pow 2 32 = 4294967296 := rfl
            rw [hpow]
            omega
        | succ i =>
            rw [show index + (i + 1) = index + 1 + i by omega, List.getElem_cons_succ]
            exact hnew i (by simpa using hi)

end Message

end PeripheralLink

import Mathlib.Algebra.GroupWithZero.Nat
import Mathlib.Algebra.Order.BigOperators.Group.List
import Mathlib.Algebra.Order.Group.Nat
import Mathlib.Data.List.Basic
import Mathlib.Data.List.Induction
import PeripheralLink.Proofs.Text.HexField
/-!
The tokens of a text, and the numbers that they stand for.  Words are the pieces between blanks, without
the empty ones; a token stands for a number in hexadecimal by the rules of `Denotes`, and `hexNumber?` and
`hexByte?` decide exactly that.
-/

namespace PeripheralLink.Text

theorem wordsFrom_eq_splitOnP (current cs : List Char) :
    wordsFrom current cs =
      ((cs.splitOnP isBlank).modifyHead (current.reverse ++ ·)).filter fun word => !word.isEmpty := by
  induction cs generalizing current with
  | nil => cases current <;> simp [wordsFrom]
  | cons c rest ih =>
      rw [List.splitOnP_cons_eq_if_modifyHead]
      by_cases hblank : isBlank c = true
      · have hrest : wordsFrom [] rest = (rest.splitOnP isBlank).filter fun word => !word.isEmpty := by
          rw [ih []]
          cases rest.splitOnP isBlank <;> rfl
        cases current <;> simp [wordsFrom, hblank, hrest]
      · have hjoin : ((current.reverse ++ ·) ∘ List.cons c) = ((c :: current).reverse ++ ·) := by
          funext word
          simp
        simp only [wordsFrom, hblank, Bool.false_eq_true, ↓reduceIte, ih, List.modifyHead_modifyHead,
          hjoin]

/-- The words of a text are its pieces between blanks, without the empty ones. -/
theorem words_eq_splitOnP (cs : List Char) :
    words cs = (cs.splitOnP isBlank).filter fun word => !word.isEmpty := by
  rw [words, wordsFrom_eq_splitOnP]
  cases cs.splitOnP isBlank <;> rfl

theorem splitOnP_congr {α : Type} {p q : α → Bool} {xs : List α} (h : ∀ x ∈ xs, p x = q x) :
    xs.splitOnP p = xs.splitOnP q := by
  induction xs with
  | nil => simp
  | cons x rest ih =>
      have hrest := ih fun y hy => h y (List.mem_cons_of_mem x hy)
      rw [List.splitOnP_cons_eq_if_modifyHead, List.splitOnP_cons_eq_if_modifyHead,
        h x List.mem_cons_self, hrest]

theorem length_le_of_mem_splitOnP {α : Type} {p : α → Bool} {xs piece : List α}
    (h : piece ∈ xs.splitOnP p) : piece.length ≤ xs.length := by
  induction xs generalizing piece with
  | nil =>
      rw [List.splitOnP_nil, List.mem_singleton] at h
      simp [h]
  | cons x rest ih =>
      rw [List.splitOnP_cons_eq_if_modifyHead] at h
      split at h
      · rcases List.mem_cons.mp h with rfl | hpiece
        · exact Nat.zero_le _
        · exact Nat.le_succ_of_le (ih hpiece)
      · cases hsplit : rest.splitOnP p with
        | nil =>
            rw [hsplit] at h
            cases h
        | cons first others =>
            rw [hsplit] at h ih
            rcases List.mem_cons.mp h with rfl | hpiece
            · exact Nat.succ_le_succ (ih List.mem_cons_self)
            · exact Nat.le_succ_of_le (ih (List.mem_cons_of_mem first hpiece))

/-- A word is no longer than the text. -/
theorem length_le_of_mem_words {cs word : List Char} (h : word ∈ words cs) :
    word.length ≤ cs.length := by
  rw [words_eq_splitOnP, List.mem_filter] at h
  exact length_le_of_mem_splitOnP h.1

/-- The pieces make up the text again, with one character between any two of them. -/
theorem sum_length_splitOnP {α : Type} (p : α → Bool) (xs : List α) :
    ((xs.splitOnP p).map fun piece => piece.length + 1).sum = xs.length + 1 := by
  induction xs with
  | nil => rfl
  | cons x rest ih =>
      rw [List.splitOnP_cons_eq_if_modifyHead]
      split
      · rw [List.map_cons, List.sum_cons, ih, List.length_nil, List.length_cons, Nat.add_comm]
      · cases hsplit : rest.splitOnP p with
        | nil => exact absurd hsplit (List.splitOnP_ne_nil p rest)
        | cons first others =>
            rw [hsplit, List.map_cons, List.sum_cons] at ih
            rw [List.modifyHead_cons, List.map_cons, List.sum_cons, List.length_cons, List.length_cons]
            omega

/-- White space of ASCII: the usual controls, the four separators and the space. -/
def isAsciiBlank (c : Char) : Bool :=
  (0x09 ≤ c.toNat && c.toNat ≤ 0x0D) || (0x1C ≤ c.toNat && c.toNat ≤ 0x1F) || c.toNat == 0x20

/-- What holds of the first 128 characters holds of every character of ASCII. -/
theorem forall_ascii {P : Char → Prop} (h : ∀ n < 0x80, P (Char.ofNat n)) {c : Char}
    (hc : c.toNat < 0x80) : P c := by
  have hchar := h c.toNat hc
  rwa [Char.ofNat_toNat] at hchar

theorem isBlank_of_ascii {c : Char} (hc : c.toNat < 0x80) : isBlank c = isAsciiBlank c := by
  apply forall_ascii _ hc
  decide

/-- The tokens of bytes: the maximal runs without white space, each byte as a character. -/
def asciiTokens (bs : List UInt8) : List (List Char) :=
  ((bs.map fun b => Char.ofNat b.toNat).splitOnP isAsciiBlank).filter fun token => !token.isEmpty

/-- A line is long enough for its tokens and a blank between any two of them. -/
theorem sum_length_asciiTokens_le (bs : List UInt8) :
    ((asciiTokens bs).map fun token => token.length + 1).sum ≤ bs.length + 1 := by
  have hall := sum_length_splitOnP isAsciiBlank (bs.map fun b => Char.ofNat b.toNat)
  rw [List.length_map] at hall
  rw [← hall]
  exact (List.filter_sublist.map _).sum_le_sum fun _ _ => Nat.zero_le _

theorem toNat_ofNat_of_ascii {n : Nat} (hn : n < 0x80) : (Char.ofNat n).toNat = n := by
  have hall : ∀ n < 0x80, (Char.ofNat n).toNat = n := by decide
  exact hall n hn

theorem words_of_ascii {bs : List UInt8} (hascii : ∀ b ∈ bs, b.toNat < 0x80) :
    words (bs.map fun b => Char.ofNat b.toNat) = asciiTokens bs := by
  rw [words_eq_splitOnP, asciiTokens, splitOnP_congr]
  intro c hc
  obtain ⟨b, hb, rfl⟩ := List.mem_map.mp hc
  apply isBlank_of_ascii
  rw [toNat_ofNat_of_ascii (hascii b hb)]
  exact hascii b hb

/-- A character is the digit of a value below sixteen, in either case. -/
structure HexDigit (c : Char) (d : Nat) : Prop where
  lt : d < 16
  char_eq : c = hexDigit d ∨ c = hexDigitLower d

/-- A token stands for a number: one digit, or a token that does and one digit more. -/
inductive Denotes : List Char → Nat → Prop
  | digit {c : Char} {d : Nat} (hd : HexDigit c d) : Denotes [c] d
  | snoc {token : List Char} {n : Nat} {c : Char} {d : Nat} (h : Denotes token n) (hd : HexDigit c d) :
      Denotes (token ++ [c]) (16 * n + d)

/-- A token of two digits stands for a byte. -/
structure HexByte (token : List Char) (b : UInt8) : Prop where
  length_eq : token.length = 2
  denotes : Denotes token b.toNat

theorem hexValue?_hexDigitLower : ∀ d < 16, hexValue? (hexDigitLower d) = some d := by decide

theorem hexDigit_of_hexValue? {c : Char} {d : Nat} (h : hexValue? c = some d) : HexDigit c d := by
  have hall : ∀ n < 0x80, ∀ d < 16, hexValue? (Char.ofNat n) = some d →
      Char.ofNat n = hexDigit d ∨ Char.ofNat n = hexDigitLower d := by decide
  have hrange : c.toNat < 0x80 ∧ d < 16 := by
    unfold hexValue? at h
    grind
  have hchar := hall c.toNat hrange.1 d hrange.2
  rw [Char.ofNat_toNat] at hchar
  exact ⟨hrange.2, hchar h⟩

theorem hexValue?_eq_some_iff {c : Char} {d : Nat} : hexValue? c = some d ↔ HexDigit c d := by
  constructor
  · exact hexDigit_of_hexValue?
  · rintro ⟨hlt, rfl | rfl⟩
    · exact hexValue?_hexDigit d hlt
    · exact hexValue?_hexDigitLower d hlt

theorem positional_concat (ds : List Nat) (d : Nat) :
    positional 16 (ds ++ [d]) = 16 * positional 16 ds + d := by
  rw [positional_eq_foldl, positional_eq_foldl, List.foldl_append, Nat.mul_comm]
  rfl

theorem Denotes.ne_nil {token : List Char} {n : Nat} (h : Denotes token n) : token ≠ [] := by
  cases h <;> simp

/-- A run of digits stands for the number that their values come to. -/
theorem denotes_of_mapM {token : List Char} (hne : token ≠ []) {ds : List Nat}
    (hds : token.mapM hexValue? = some ds) : Denotes token (positional 16 ds) := by
  induction token using List.reverseRecOn generalizing ds with
  | nil => exact absurd rfl hne
  | append_singleton token c ih =>
      obtain ⟨init, hinit, d, hd, rfl⟩ :
          ∃ init, token.mapM hexValue? = some init ∧ ∃ d, hexValue? c = some d ∧ init ++ [d] = ds := by
        simpa [List.mapM_append, Option.bind_eq_some_iff] using hds
      have hdigit := hexDigit_of_hexValue? hd
      rw [positional_concat]
      cases token with
      | nil =>
          cases hinit
          simpa [positional_eq_foldl] using Denotes.digit hdigit
      | cons first rest => exact .snoc (ih (List.cons_ne_nil first rest) hinit) hdigit

theorem Denotes.mapM {token : List Char} {n : Nat} (h : Denotes token n) :
    ∃ ds, token.mapM hexValue? = some ds ∧ positional 16 ds = n := by
  induction h with
  | @digit c d hd =>
      refine ⟨[d], ?_, ?_⟩
      · simp [hexValue?_eq_some_iff.mpr hd]
      · simp [positional_eq_foldl]
  | @snoc token n c d _ hd ih =>
      obtain ⟨ds, hds, rfl⟩ := ih
      refine ⟨ds ++ [d], ?_, positional_concat ds d⟩
      simp [List.mapM_append, hds, hexValue?_eq_some_iff.mpr hd]

theorem hexNumber?_eq_some_iff {token : List Char} {n : Nat} :
    hexNumber? token = some n ↔ Denotes token n := by
  unfold hexNumber?
  constructor
  · intro h
    split at h
    · cases h
    · rename_i hempty
      obtain ⟨ds, hds, rfl⟩ := Option.map_eq_some_iff.mp h
      exact denotes_of_mapM (by simpa using hempty) hds
  · intro h
    obtain ⟨ds, hds, rfl⟩ := h.mapM
    rw [if_neg (by simpa using h.ne_nil), hds]
    rfl

theorem hexNumber?_eq_none_iff {token : List Char} :
    hexNumber? token = none ↔ ¬ ∃ n, Denotes token n := by
  simp only [← hexNumber?_eq_some_iff, ← Option.isSome_iff_exists, Option.not_isSome_iff_eq_none]

theorem Denotes.eq {token : List Char} {n m : Nat} (hn : Denotes token n) (hm : Denotes token m) :
    n = m :=
  Option.some.inj ((hexNumber?_eq_some_iff.mpr hn).symm.trans (hexNumber?_eq_some_iff.mpr hm))

/-- A token of few digits stands for a small number. -/
theorem Denotes.lt {token : List Char} {n : Nat} (h : Denotes token n) : n < 16 ^ token.length := by
  induction h with
  | digit hd => simpa using hd.lt
  | snoc _ hd ih =>
      have hlt := hd.lt
      rw [List.length_append, List.length_singleton, Nat.pow_succ]
      omega

theorem hexByte?_pair (a b : Char) : hexByte? [a, b] = (hexNumber? [a, b]).map UInt8.ofNat := by
  cases ha : hexValue? a with
  | none => simp [hexByte?, hexNumber?, ha]
  | some high =>
      cases hb : hexValue? b with
      | none => simp [hexByte?, hexNumber?, ha, hb]
      | some low => simp [hexByte?, hexNumber?, ha, hb, positional_eq_foldl]

theorem hexByte?_eq_some_iff {token : List Char} {b : UInt8} :
    hexByte? token = some b ↔ HexByte token b := by
  constructor
  · intro h
    by_cases hlength : token.length = 2
    · obtain ⟨c, d, rfl⟩ := List.length_eq_two.mp hlength
      rw [hexByte?_pair] at h
      obtain ⟨n, hn, rfl⟩ := Option.map_eq_some_iff.mp h
      have hdenotes := hexNumber?_eq_some_iff.mp hn
      have hlt : n < 16 ^ 2 := hdenotes.lt
      refine ⟨hlength, ?_⟩
      rwa [UInt8.toNat_ofNat_of_lt' hlt]
    · rw [hexByte?_of_length hlength] at h
      cases h
  · rintro ⟨hlength, hdenotes⟩
    obtain ⟨c, d, rfl⟩ := List.length_eq_two.mp hlength
    rw [hexByte?_pair, hexNumber?_eq_some_iff.mpr hdenotes, Option.map_some, UInt8.ofNat_toNat]

theorem HexDigit.toUpper {c : Char} {d : Nat} (h : HexDigit c d) : c.toUpper = hexDigit d := by
  have hall : ∀ d < 16, (hexDigit d).toUpper = hexDigit d ∧ (hexDigitLower d).toUpper = hexDigit d := by
    decide
  rcases h.char_eq with rfl | rfl
  · exact (hall d h.lt).1
  · exact (hall d h.lt).2

/-- A token for a byte is, in upper case, the one that is written for it. -/
theorem HexByte.map_toUpper {token : List Char} {b : UInt8} (h : HexByte token b) :
    token.map Char.toUpper = hexByte b := by
  obtain ⟨first, second, rfl⟩ := List.length_eq_two.mp h.length_eq
  have hread := hexByte?_eq_some_iff.mpr h
  cases hfirst : hexValue? first with
  | none => simp [hexByte?, hfirst] at hread
  | some high =>
      cases hsecond : hexValue? second with
      | none => simp [hexByte?, hfirst, hsecond] at hread
      | some low =>
          have hhigh := hexDigit_of_hexValue? hfirst
          have hlow := hexDigit_of_hexValue? hsecond
          have hhigh_lt := hhigh.lt
          have hlow_lt := hlow.lt
          simp only [hexByte?, hfirst, hsecond, Option.some.injEq] at hread
          have hvalue : b.toNat = high * 16 + low := by
            rw [← hread, UInt8.toNat_ofNat_of_lt' (by simp only [UInt8.size]; omega)]
          have hdiv : b.toNat / 16 = high := by omega
          have hmod : b.toNat % 16 = low := by omega
          simp only [List.map_cons, List.map_nil, hhigh.toUpper, hlow.toUpper, hexByte, hdiv, hmod]

theorem hexByte?_eq_none_iff {token : List Char} :
    hexByte? token = none ↔ ¬ ∃ b, HexByte token b := by
  simp only [← hexByte?_eq_some_iff, ← Option.isSome_iff_exists, Option.not_isSome_iff_eq_none]

example : HexByte "aF".toList 0xAF := hexByte?_eq_some_iff.mp rfl

end PeripheralLink.Text

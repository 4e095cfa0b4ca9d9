/-!
Blanks in running text, and the two readings of a text that depend on them: its words and its
trimmed form.  `words_append_blank` says that a blank ends the word before it, so the words of a
text are its maximal runs without blanks.
-/

namespace PeripheralLink.Text

/-- White space of running text: the ASCII separators `0x1C` to `0x1F` count beside the usual
controls, and outside ASCII the space separators and line separators of Unicode. -/
def isBlank (c : Char) : Bool :=
  let n := c.toNat
  (0x09 ≤ n && n ≤ 0x0D) || (0x1C ≤ n && n ≤ 0x20) || n == 0x85 || n == 0xA0 || n == 0x1680 ||
    (0x2000 ≤ n && n ≤ 0x200A) || n == 0x2028 || n == 0x2029 || n == 0x202F || n == 0x205F ||
    n == 0x3000

/-- White space around a number.  Inside ASCII it is narrower than `isBlank`: the separators
`0x1C` to `0x1F` do not count. -/
def isNumberBlank (c : Char) : Bool :=
  if c.toNat < 0x80 then (0x09 ≤ c.toNat && c.toNat ≤ 0x0D) || c.toNat == 0x20 else isBlank c

def trim (p : Char → Bool) (cs : List Char) : List Char :=
  ((cs.dropWhile p).reverse.dropWhile p).reverse

/-- Words of a text that begins inside the word `current`, whose characters stand in reverse. -/
def wordsFrom (current : List Char) : List Char → List (List Char)
  | [] => if current.isEmpty then [] else [current.reverse]
  | c :: rest =>
    if isBlank c then
      if current.isEmpty then wordsFrom [] rest else current.reverse :: wordsFrom [] rest
    else wordsFrom (c :: current) rest

/-- The maximal runs of characters that are not blank, in order. -/
def words (cs : List Char) : List (List Char) := wordsFrom [] cs

theorem wordsFrom_append_blank (current first rest : List Char) (blank : Char)
    (hblank : isBlank blank = true) :
    wordsFrom current (first ++ blank :: rest) = wordsFrom current first ++ words rest := by
  induction first generalizing current with
  | nil => cases current <;> simp [wordsFrom, words, hblank]
  | cons c first ih =>
      by_cases hc : isBlank c = true
      · cases current <;> simp [wordsFrom, hc, ih]
      · simp [wordsFrom, hc, ih]

/-- A blank ends the word before it and begins none. -/
theorem words_append_blank (first rest : List Char) (blank : Char)
    (hblank : isBlank blank = true) :
    words (first ++ blank :: rest) = words first ++ words rest :=
  wordsFrom_append_blank [] first rest blank hblank

theorem wordsFrom_of_no_blank (current word : List Char)
    (hword : ∀ c ∈ word, isBlank c = false) (hne : current ≠ [] ∨ word ≠ []) :
    wordsFrom current word = [current.reverse ++ word] := by
  induction word generalizing current with
  | nil => cases current <;> simp_all [wordsFrom]
  | cons c word ih =>
      have hc : isBlank c = false := hword c List.mem_cons_self
      have htail : ∀ d ∈ word, isBlank d = false := fun d hd => hword d (List.mem_cons_of_mem c hd)
      simp [wordsFrom, hc, ih (c :: current) htail (Or.inl (by simp))]

/-- A non-empty text without blanks is one word. -/
theorem words_of_no_blank (word : List Char) (hword : ∀ c ∈ word, isBlank c = false)
    (hne : word ≠ []) : words word = [word] := by
  simpa [words] using wordsFrom_of_no_blank [] word hword (Or.inr hne)

example : words "07 01\t02\r\n".toList = ["07".toList, "01".toList, "02".toList] := by decide

example : trim isBlank " a b \n".toList = "a b".toList := by decide

end PeripheralLink.Text

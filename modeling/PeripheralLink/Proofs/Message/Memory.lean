import Mathlib.Data.Nat.Digits.Defs
import PeripheralLink.Proofs.Message.Congruence
import PeripheralLink.Proofs.Message.NormalForm
import PeripheralLink.Proofs.Message.Words
/-!
A message as a memory of words.  `WordMemory` knows nothing of bytes: it has a count and a word for each
index, and `WordMemory.respond` says what each call makes of it and answers.  Beside it stands the buffer as
bytes that can grow and shrink: `WordCall.splices` writes each call as assignments to slices of it.

`Message.respond_memory` is one call, `Message.serve_memory` any calls one after the other.  The main statement
is `Message.serve_refines`: whatever the calls, a message answers as the memory does, and its buffer is the one
that the slices leave, with its size kept.
-/

namespace PeripheralLink

/-- The bytes with those from `start` up to `stop` replaced, whatever the number of the new ones. -/
def splice (bytes : List UInt8) (start stop : Nat) (new : List UInt8) : List UInt8 :=
  bytes.take start ++ new ++ bytes.drop (max start stop)

section

variable {bytes new : List UInt8} {start stop : Nat}

/-- As many new bytes as there were before keep the size. -/
theorem length_splice (hnew : start + new.length = stop) (hstop : stop ≤ bytes.length) :
    (splice bytes start stop new).length = bytes.length := by
  simp only [splice, List.length_append, List.length_take, List.length_drop]
  omega

theorem getElem?_splice (hnew : start + new.length = stop) (hstop : stop ≤ bytes.length) (j : Nat) :
    (splice bytes start stop new)[j]? =
      if start ≤ j ∧ j < stop then new[j - start]? else bytes[j]? := by
  have hfront : (bytes.take start).length = start := by
    rw [List.length_take]
    omega
  have hmax : max start stop = stop := by omega
  rw [splice, hmax, List.append_assoc]
  by_cases hbefore : j < start
  · rw [List.getElem?_append_left (by omega), List.getElem?_take, if_pos hbefore, if_neg (by omega)]
  · rw [List.getElem?_append_right (by omega), hfront]
    by_cases hinside : j < stop
    · rw [List.getElem?_append_left (by omega), if_pos ⟨by omega, hinside⟩]
    · rw [List.getElem?_append_right (by omega), List.getElem?_drop, if_neg (by omega)]
      congr 1
      omega

theorem getD_splice (hnew : start + new.length = stop) (hstop : stop ≤ bytes.length) (j : Nat) :
    (splice bytes start stop new).getD j 0 =
      if start ≤ j ∧ j < stop then new.getD (j - start) 0 else bytes.getD j 0 := by
  rw [List.getD_eq_getElem?_getD, getElem?_splice hnew hstop]
  split <;> rw [List.getD_eq_getElem?_getD]

theorem getD_of_le {j : Nat} (h : bytes.length ≤ j) : bytes.getD j 0 = 0 := by
  rw [List.getD_eq_getElem?_getD, List.getElem?_eq_none h, Option.getD_none]

theorem getD_zeros (n j : Nat) : (List.replicate n (0 : UInt8)).getD j 0 = 0 := by
  rw [List.getD_eq_getElem?_getD, List.getElem?_replicate]
  split <;> rfl

theorem ext_getD {other : List UInt8} (hlength : bytes.length = other.length)
    (h : ∀ j, bytes.getD j 0 = other.getD j 0) : bytes = other := by
  apply List.ext_getElem hlength
  intro j hj hj'
  have hbyte := h j
  rwa [List.getD_eq_getElem?_getD, List.getElem?_eq_getElem hj, List.getD_eq_getElem?_getD,
    List.getElem?_eq_getElem hj'] at hbyte

end

/-- The word at a place of the bytes, the least significant byte first; a byte that is missing is a zero. -/
def wordAt (bytes : List UInt8) (index : Nat) : Nat :=
  Nat.ofDigits 256 ((List.range 4).map fun place => (bytes.getD (4 * index + place) 0).toNat)

theorem wordAt_eq (bytes : List UInt8) (index : Nat) :
    wordAt bytes index =
      (bytes.getD (4 * index) 0).toNat + 256 * (bytes.getD (4 * index + 1) 0).toNat +
        65536 * (bytes.getD (4 * index + 2) 0).toNat + 16777216 * (bytes.getD (4 * index + 3) 0).toNat := by
  simp only [wordAt, show List.range 4 = [0, 1, 2, 3] from rfl, List.map_cons, List.map_nil, Nat.ofDigits_cons,
    Nat.ofDigits_nil, Nat.add_zero]
  omega

theorem wordAt_congr {bytes other : List UInt8} {index : Nat}
    (h : ∀ place < 4, bytes.getD (4 * index + place) 0 = other.getD (4 * index + place) 0) :
    wordAt bytes index = wordAt other index := by
  rw [wordAt, wordAt]
  congr 1
  apply List.map_congr_left
  intro place hplace
  rw [h place (List.mem_range.mp hplace)]

theorem getD_toList (p : Payload) {j : Nat} (hj : j < capacity) : p.toList.getD j 0 = p[j] := by
  have hlength : j < p.toList.length := by rwa [Vector.length_toList]
  rw [List.getD_eq_getElem?_getD, List.getElem?_eq_getElem hlength, Option.getD_some, Vector.getElem_toList]

theorem Payload.readWord_eq (p : Payload) (index : Nat) (h : index * wordSize + wordSize ≤ capacity) :
    p.readWord index h = wordAt p.toList index := by
  have hsize : wordSize = 4 := rfl
  have hplace : 4 * index = index * wordSize := Nat.mul_comm 4 index
  rw [wordAt_eq, hplace, getD_toList p (by omega), getD_toList p (by omega), getD_toList p (by omega),
    getD_toList p (by omega)]
  rfl

/-- A call on a message: one that may change it, or one that reads a word. -/
inductive WordCall
  | edit (e : Edit)
  | read (index : Whole)

/-- What is left after a response: a call that is refused leaves things as they are. -/
def leaves {σ : Type} (s : σ) : Except MessageError (σ × Option Nat) → σ
  | .ok (s', _) => s'
  | .error _ => s

/-- Calls one after the other, by the way each of them is responded to: what is left in the end, and what is
answered. -/
def serve {σ : Type} (respond : σ → WordCall → Except MessageError (σ × Option Nat)) (s : σ) :
    List WordCall → σ × List (Except MessageError (Option Nat))
  | [] => (s, [])
  | c :: calls =>
    let rest := serve respond (leaves s (respond s c)) calls
    (rest.1, (respond s c).map Prod.snd :: rest.2)

/-- What becomes of a message, and the word that it answers with. -/
def Message.respond (m : Message) : WordCall → Except MessageError (Message × Option Nat)
  | .edit e => (e.run m).map (·, none)
  | .read index => (m.getWord index).map (m, some ·)

/-- What a call does to a buffer that can grow and shrink.  A copy fills a buffer of its own. -/
def WordCall.splices (buffer : List UInt8) : WordCall → List UInt8
  | .edit (.setData data) =>
      if maxWords * wordSize < data.length then buffer
      else
        let size := (data.length + wordSize - 1) / wordSize * wordSize
        -- the data, then zeros up to the end of its last word
        splice (splice buffer 0 data.length data) data.length size (List.replicate (size - data.length) 0)
  | .edit (.setWord value index) =>
      if 0 ≤ index ∧ index < maxWords then
        let start := index.toNat * wordSize
        splice buffer start (start + wordSize)
          ((List.range wordSize).map (wordByte (value % Nat.pow 2 32).toNat))
      else buffer
  | .edit .copy => splice (List.replicate capacity 0) 0 buffer.length buffer
  | .read _ => buffer

/-- A memory of words of 32 bits, of which the first few are in use. -/
@[ext]
structure WordMemory where
  count : Whole
  words : Nat → Nat

namespace WordMemory

/-- Data stored as words from the start, the last of them filled up with zeros; these are in use then. -/
def load (mem : WordMemory) (data : List UInt8) : WordMemory :=
  let count := (data.length + 3) / 4
  { count := (count : Int), words := fun i => if i < count then wordAt data i else mem.words i }

/-- A word written as far as 32 bits hold it, with the words up to it in use. -/
def write (mem : WordMemory) (value : Int) (index : Nat) : WordMemory where
  count := ⟨max mem.count.value (index + 1), mem.count.isTruth && decide ((index : Int) < mem.count.value)⟩
  words := Function.update mem.words index (value % 2 ^ 32).toNat

/-- What becomes of a memory, and the word that it answers with. -/
def respond (mem : WordMemory) : WordCall → Except MessageError (WordMemory × Option Nat)
  | .edit (.setData data) =>
      if data.length ≤ 1020 then .ok (mem.load data, none) else .error (.dataTooLong data.length)
  | .edit (.setWord value index) =>
      if 0 ≤ index ∧ index < 255 then .ok (mem.write value index.toNat, none) else .ok (mem, none)
  | .edit .copy => .ok (mem, none)
  | .read index =>
      if 0 ≤ index.value ∧ index.value < mem.count.value then .ok (mem, some (mem.words index.value.toNat))
      else .error (.wordOutside index mem.count)

end WordMemory

def Message.memory (m : Message) : WordMemory := ⟨m.count, wordAt m.payload.toList⟩

namespace Message

variable {m : Message} {filled : List UInt8}

/-- A message built with bytes given for its buffer: by its maker, or from a line that carries them. -/
inductive Built (filled : List UInt8) (m : Message) : Prop
  | made {command destination origin count : Value}
      (h : make command destination origin count filled = .ok m) : Built filled m
  | read {codec : Codec} {line : Line} (h : codec.parse line = .ok m) (hdata : m.data = filled) : Built filled m

/-- A message whose header fields are bytes, with a count that a truth value can be. -/
structure Framed (m : Message) : Prop where
  headerFits : m.HeaderFits
  entered : m.Entered

theorem exists_of_bind_eq_ok {ε α β : Type} {x : Except ε α} {f : α → Except ε β} {b : β}
    (h : x >>= f = .ok b) : ∃ a, x = .ok a ∧ f a = .ok b := by
  cases x with
  | error e => cases h
  | ok a => exact ⟨a, rfl, h⟩

theorem checkByte_bounds {field : HeaderField} {value : Value} {n : Int} (h : checkByte field value = .ok n) :
    (0 ≤ n ∧ n ≤ 255) ∧ value.int? = some n := by
  rw [checkByte] at h
  split at h
  · split at h
    · cases h
      exact ⟨‹_›, ‹_›⟩
    · cases h
  · cases h

theorem zero_or_one_of_bool {b : Bool} {n : Int} (h : (Value.bool b).int? = some n) : n = 0 ∨ n = 1 := by
  cases b <;> cases h
  · exact .inl rfl
  · exact .inr rfl

theorem framed_make {command destination origin count : Value}
    (h : make command destination origin count filled = .ok m) :
    m.Framed ∧ filled.length ≤ 1024 ∧ m.payload = Payload.ofList filled := by
  obtain ⟨c, hcommand, h⟩ := exists_of_bind_eq_ok h
  obtain ⟨d, hdestination, h⟩ := exists_of_bind_eq_ok h
  obtain ⟨o, horigin, h⟩ := exists_of_bind_eq_ok h
  obtain ⟨n, hcount, h⟩ := exists_of_bind_eq_ok h
  by_cases hlong : capacity < filled.length
  · rw [if_pos hlong] at h
    cases h
  · rw [if_neg hlong] at h
    cases h
    refine ⟨⟨?_, ?_⟩, Nat.not_lt.mp hlong, rfl⟩
    · exact headerFits_iff.mpr ⟨(checkByte_bounds hcommand).1, (checkByte_bounds hdestination).1,
        (checkByte_bounds horigin).1, (checkByte_bounds hcount).1⟩
    · intro htruth
      dsimp only at htruth ⊢
      split at htruth
      · exact zero_or_one_of_bool (checkByte_bounds hcount).2
      · cases htruth

theorem framed_of_carries {tokens : List (List Char)} (h : Carries tokens m) :
    m.Framed ∧ m.data.length ≤ 1024 ∧ m.payload = Payload.ofList m.data := by
  refine ⟨⟨h.inUse.1, ?_⟩, ?_⟩
  · cases h
    exact nofun
  · obtain @⟨_, _, _, _, _, _, count, bytes, payload, -, -, -, hlength, hpayload⟩ := h
    have hbound : bytes.length ≤ 1024 := by
      have hlt := count.toNat_lt
      omega
    have hdata : bytes.length = count.toNat * wordSize := by rw [hlength, wordSize, Nat.mul_comm]
    rw [data_of_wordCount rfl, hpayload, List.take_left' hdata]
    exact ⟨hbound, Vector.toList_inj.mp (hpayload.trans (toList_ofList hbound).symm)⟩

/-- However a message is built, its header is one of bytes, and its buffer is filled with the bytes given. -/
theorem Built.framed (h : Built filled m) :
    m.Framed ∧ filled.length ≤ 1024 ∧ m.payload = Payload.ofList filled := by
  cases h with
  | made h => exact framed_make h
  | @read codec line h hdata =>
      by_cases hlong : codec.lineLimit.value < line.length
      · rw [Codec.parse, if_pos hlong] at h
        cases h
      · rw [Codec.parse, if_neg hlong] at h
        obtain ⟨cs, -, h⟩ := exists_of_bind_eq_ok h
        rw [← hdata]
        exact framed_of_carries (readTokens_eq_ok_iff.mp h)

theorem getD_edit (h : m.Entered) (e : Edit) (j : Nat) :
    (m.edit e).payload.toList.getD j 0 = (e.written? j).getD (m.payload.toList.getD j 0) := by
  by_cases hj : j < capacity
  · rw [getD_toList _ hj, getD_toList _ hj]
    exact (edit_spec h e).2.2 j hj
  · have hbehind (p : Payload) : p.toList.getD j 0 = 0 :=
      getD_of_le (by rw [Vector.length_toList]; omega)
    have hnone : e.written? j = none := by
      simp only [capacity] at hj
      cases e with
      | copy => rfl
      | setData data =>
          by_cases hlong : maxWords * wordSize < data.length
          · rw [Edit.written?, if_pos hlong]
          · rw [Edit.written?, if_neg hlong, if_neg]
            simp only [maxWords, wordSize] at hlong ⊢
            omega
      | setWord value index =>
          rw [Edit.written?, if_neg]
          simp only [maxWords, wordSize]
          omega
    rw [hbehind, hbehind, hnone, Option.getD_none]

/-- Data short enough is stored from the first word on, the last word filled up with zeros. -/
theorem wordAt_setData (h : m.Entered) {data : List UInt8} (hshort : data.length ≤ 1020) (i : Nat) :
    wordAt (m.edit (.setData data)).payload.toList i =
      if i < (data.length + 3) / 4 then wordAt data i else wordAt m.payload.toList i := by
  have hfits : ¬ maxWords * wordSize < data.length := Nat.not_lt.mpr hshort
  split
  · apply wordAt_congr
    intro place hplace
    have hinside : 4 * i + place < (data.length + wordSize - 1) / wordSize * wordSize := by
      simp only [wordSize]
      omega
    rw [getD_edit h, Edit.written?, if_neg hfits, if_pos hinside, Option.getD_some]
  · apply wordAt_congr
    intro place hplace
    have hbeyond : ¬ 4 * i + place < (data.length + wordSize - 1) / wordSize * wordSize := by
      simp only [wordSize]
      omega
    rw [getD_edit h, Edit.written?, if_neg hfits, if_neg hbeyond, Option.getD_none]

/-- A word that is written is the one at its place, and no other changes. -/
theorem wordAt_setWord (h : m.Entered) (value : Int) {index : Int} (hplace : 0 ≤ index ∧ index < 255) (i : Nat) :
    wordAt (m.edit (.setWord value index)).payload.toList i =
      if i = index.toNat then (value % 2 ^ 32).toNat else wordAt m.payload.toList i := by
  have hwithin : index < (maxWords : Int) := hplace.2
  split
  · have hbyte (place : Nat) (hlt : place < 4) :
        (m.edit (.setWord value index)).payload.toList.getD (4 * i + place) 0 =
          wordByte (value % Nat.pow 2 32).toNat place := by
      have hin : (4 * i + place) / wordSize = index.toNat := by
        simp only [wordSize]
        omega
      have hrest : (4 * i + place) % wordSize = place := by
        simp only [wordSize]
        omega
      rw [getD_edit h, Edit.written?, if_pos ⟨hplace.1, hwithin, hin⟩, Option.getD_some, hrest]
    have hsmall : (value % Nat.pow 2 32).toNat % 2 ^ 32 = (value % 2 ^ 32).toNat := by
      rw [show Nat.pow 2 32 = 4294967296 from rfl]
      omega
    rw [wordAt_eq, hbyte 1 (by decide), hbyte 2 (by decide), hbyte 3 (by decide),
      show 4 * i = 4 * i + 0 from rfl, hbyte 0 (by decide), sum_wordByte, hsmall]
  · apply wordAt_congr
    intro place hlt
    have hout : ¬ (4 * i + place) / wordSize = index.toNat := by
      simp only [wordSize]
      omega
    rw [getD_edit h, Edit.written?, if_neg fun hin => hout hin.2.2, Option.getD_none]

/-- A message that was built can be copied, and the copy is the message. -/
theorem Framed.copy (h : m.Framed) : m.copy = .ok m := by
  obtain ⟨hcommand, hdestination, horigin, hcount⟩ := headerFits_iff.mp h.headerFits
  have hbyte {field : HeaderField} {n : Int} (hn : 0 ≤ n ∧ n ≤ 255) : checkByte field (.int n) = .ok n :=
    if_pos hn
  rw [copy_eq h.entered, checkHeader, hbyte hcommand, hbyte hdestination, hbyte horigin, hbyte hcount]
  rfl

theorem count_bounds {n : Int} (hn : 0 ≤ n ∧ n ≤ 255) (e : Edit) : 0 ≤ e.count n ∧ e.count n ≤ 255 := by
  cases e with
  | copy => exact hn
  | setData data =>
      by_cases hlong : maxWords * wordSize < data.length
      · rwa [Edit.count, if_pos hlong]
      · rw [Edit.count, if_neg hlong]
        simp only [maxWords, wordSize] at hlong ⊢
        omega
  | setWord value index =>
      by_cases hraised : 0 ≤ index ∧ index < maxWords ∧ n ≤ index
      · rw [Edit.count, if_pos hraised]
        simp only [maxWords] at hraised
        omega
      · rwa [Edit.count, if_neg hraised]

theorem Framed.edit (h : m.Framed) (e : Edit) : (m.edit e).Framed := by
  obtain ⟨⟨hcommand, hdestination, horigin, hcount⟩, hentered, -⟩ := edit_spec h.entered e
  obtain ⟨hcommand', hdestination', horigin', hcount'⟩ := headerFits_iff.mp h.headerFits
  refine ⟨headerFits_iff.mpr ?_, hentered⟩
  rw [hcommand, hdestination, horigin, hcount]
  exact ⟨hcommand', hdestination', horigin', count_bounds hcount' e⟩

/-- A word in use can be read, and no other. -/
theorem Framed.getWord (h : m.Framed) (index : Whole) :
    m.getWord index =
      if 0 ≤ index.value ∧ index.value < m.wordCount then .ok (wordAt m.payload.toList index.value.toNat)
      else .error (.wordOutside index m.count) := by
  have hcount := (headerFits_iff.mp h.headerFits).2.2.2
  by_cases hin : 0 ≤ index.value ∧ index.value < m.wordCount
  · have hplace : ¬ (index.value < 0 ∨ m.wordCount ≤ index.value) := by omega
    have haddress : ¬ addressBound ≤ index.value * wordSize := by
      simp only [addressBound, show Nat.pow 2 63 = 9223372036854775808 from rfl, wordSize]
      omega
    have hfits : index.value.toNat * wordSize + wordSize ≤ capacity := by
      simp only [wordSize, capacity]
      omega
    simp only [Message.getWord, hplace, haddress, hfits, hin, and_self, if_true, if_false, dite_true,
      Payload.readWord_eq]
  · have hplace : index.value < 0 ∨ m.wordCount ≤ index.value := by omega
    rw [Message.getWord, if_pos hplace, if_neg hin]

/-- A call that is not refused leaves what the edit leaves. -/
theorem run_setData {data : List UInt8} (hshort : data.length ≤ 1020) :
    (Edit.setData data).run m = .ok (m.edit (.setData data)) := by
  have hfits : ¬ maxWords * wordSize < data.length := Nat.not_lt.mpr hshort
  rw [Edit.run, setData, if_neg hfits, edit_setData hfits]

theorem memory_setData (h : m.Entered) {data : List UInt8} (hshort : data.length ≤ 1020) :
    (m.edit (.setData data)).memory = m.memory.load data := by
  ext1
  · rw [edit_setData (Nat.not_lt.mpr hshort)]
    rfl
  · funext i
    exact wordAt_setData h hshort i

theorem memory_setWord (h : m.Entered) (value : Int) {index : Int} (hplace : 0 ≤ index ∧ index < 255) :
    (m.edit (.setWord value index)).memory = m.memory.write value index.toNat := by
  ext1
  · rw [edit_setWord hplace]
    simp only [memory, count, WordMemory.write, Whole.mk.injEq]
    by_cases hraised : m.wordCount ≤ index
    · have hnot : ¬ (index.toNat : Int) < m.wordCount := by omega
      simp only [hraised, hnot, if_true, decide_false, Bool.and_false, and_true]
      omega
    · have hbelow : (index.toNat : Int) < m.wordCount := by omega
      simp only [hraised, hbelow, if_false, decide_true, Bool.and_true, and_true]
      omega
  · funext i
    simp only [WordMemory.write, Function.update_apply]
    exact wordAt_setWord h value hplace i

/-- To a call a message responds as its memory does. -/
theorem respond_memory (h : m.Framed) (c : WordCall) :
    (m.respond c).map (Prod.map memory id) = m.memory.respond c := by
  cases c with
  | read index =>
      have hcount : m.memory.count.value = m.wordCount := rfl
      rw [respond, WordMemory.respond, h.getWord, hcount]
      split <;> rfl
  | edit e =>
  cases e with
  | copy =>
      rw [respond, Edit.run, h.copy]
      rfl
  | setData data =>
      rw [WordMemory.respond]
      split
      · rw [respond, run_setData ‹_›, ← memory_setData h.entered ‹_›]
        rfl
      · have hlong : maxWords * wordSize < data.length := Nat.not_le.mp ‹_›
        rw [respond, Edit.run, setData, if_pos hlong]
        rfl
  | setWord value index =>
      rw [WordMemory.respond]
      split
      · rw [← memory_setWord h.entered value ‹_›]
        rfl
      · have hkept : m.edit (.setWord value index) = m := edit_setWord_of_not ‹_›
        rw [← congrArg memory hkept]
        rfl

/-- What a call leaves of a message: the edit, if it is one. -/
theorem leaves_respond (c : WordCall) :
    leaves m (m.respond c) = match c with
      | .edit e => m.edit e
      | .read _ => m := by
  cases c with
  | edit e =>
      simp only [respond, Message.edit]
      cases e.run m <;> rfl
  | read index =>
      rw [respond]
      cases m.getWord index <;> rfl

theorem Framed.call (h : m.Framed) (c : WordCall) : (leaves m (m.respond c)).Framed := by
  rw [leaves_respond]
  cases c with
  | edit e => exact h.edit e
  | read index => exact h

/-- A buffer is filled by the assignment of a slice. -/
theorem toList_ofList_eq_splice (hlength : filled.length ≤ 1024) :
    (Payload.ofList filled).toList = splice (List.replicate 1024 0) 0 filled.length filled := by
  rw [toList_ofList hlength, splice, List.take_zero, List.nil_append, Nat.zero_max, List.drop_replicate]

theorem splices_setData {data buffer : List UInt8} (hshort : data.length ≤ 1020) (hbuffer : buffer.length = 1024) :
    (WordCall.splices buffer (.edit (.setData data))).length = 1024 ∧
    ∀ j, (WordCall.splices buffer (.edit (.setData data))).getD j 0 =
      ((Edit.setData data).written? j).getD (buffer.getD j 0) := by
  have hfits : ¬ maxWords * wordSize < data.length := Nat.not_lt.mpr hshort
  rw [WordCall.splices, if_neg hfits]
  dsimp only
  -- the size of the data as whole words
  have hsize : data.length ≤ (data.length + wordSize - 1) / wordSize * wordSize ∧
      (data.length + wordSize - 1) / wordSize * wordSize ≤ 1020 := by
    simp only [wordSize]
    omega
  simp only [Edit.written?, hfits, if_false]
  generalize (data.length + wordSize - 1) / wordSize * wordSize = size at hsize ⊢
  have hinner : (splice buffer 0 data.length data).length = 1024 := by
    rw [length_splice (Nat.zero_add _) (by omega), hbuffer]
  have hzeros : data.length + (List.replicate (size - data.length) (0 : UInt8)).length = size := by
    rw [List.length_replicate]
    omega
  constructor
  · rw [length_splice hzeros (by omega), hinner]
  · intro j
    rw [getD_splice hzeros (by omega), getD_splice (Nat.zero_add _) (by omega)]
    by_cases hdata : j < data.length
    · rw [if_neg (by omega), if_pos ⟨Nat.zero_le j, hdata⟩, if_pos (by omega), Option.getD_some, Nat.sub_zero]
    · by_cases hpadding : j < size
      · rw [if_pos ⟨by omega, hpadding⟩, if_pos hpadding, Option.getD_some, getD_zeros, getD_of_le (by omega)]
      · rw [if_neg (by omega), if_neg (by omega), if_neg hpadding, Option.getD_none]

theorem splices_setWord (value : Int) {index : Int} {buffer : List UInt8} (hplace : 0 ≤ index ∧ index < 255)
    (hbuffer : buffer.length = 1024) :
    (WordCall.splices buffer (.edit (.setWord value index))).length = 1024 ∧
    ∀ j, (WordCall.splices buffer (.edit (.setWord value index))).getD j 0 =
      ((Edit.setWord value index).written? j).getD (buffer.getD j 0) := by
  have hwithin : 0 ≤ index ∧ index < (maxWords : Int) := hplace
  rw [WordCall.splices, if_pos hwithin]
  dsimp only
  have hstop : index.toNat * wordSize + wordSize ≤ buffer.length := by
    simp only [wordSize]
    omega
  have hlength (n : Nat) : index.toNat * wordSize + ((List.range wordSize).map (wordByte n)).length =
      index.toNat * wordSize + wordSize := by
    rw [List.length_map, List.length_range]
  constructor
  · rw [length_splice (hlength _) hstop, hbuffer]
  · intro j
    have hword : (index.toNat * wordSize ≤ j ∧ j < index.toNat * wordSize + wordSize) ↔
        j / wordSize = index.toNat := by
      simp only [wordSize]
      omega
    rw [getD_splice (hlength _) hstop, Edit.written?]
    by_cases hin : j / wordSize = index.toNat
    · have hrest : j - index.toNat * wordSize = j % wordSize := by
        simp only [wordSize] at hin ⊢
        omega
      have hlt : j % wordSize < wordSize := Nat.mod_lt j (by decide)
      rw [if_pos (hword.mpr hin), if_pos ⟨hplace.1, hwithin.2, hin⟩, Option.getD_some, hrest,
        List.getD_eq_getElem?_getD, List.getElem?_map, List.getElem?_range hlt, Option.map_some, Option.getD_some]
    · rw [if_neg (mt hword.mp hin), if_neg fun h => hin h.2.2, Option.getD_none]

/-- The slices of a call keep the size of the buffer, and write the bytes that the call writes. -/
theorem toList_call (h : m.Framed) (c : WordCall) :
    (leaves m (m.respond c)).payload.toList = c.splices m.payload.toList := by
  have hbuffer (p : Payload) : p.toList.length = 1024 := Vector.length_toList
  rw [leaves_respond]
  cases c with
  | read index => rfl
  | edit e =>
  cases e with
  | copy =>
      have hcopy := toList_ofList_eq_splice (Nat.le_of_eq (hbuffer m.payload))
      rw [ofList_toList] at hcopy
      dsimp only
      rw [edit_copy h.entered]
      exact hcopy
  | setData data =>
      by_cases hshort : data.length ≤ 1020
      · obtain ⟨hlength, hbytes⟩ := splices_setData hshort (hbuffer m.payload)
        apply ext_getD
        · rw [hlength, hbuffer]
        · intro j
          rw [hbytes, getD_edit h.entered]
      · have hlong : maxWords * wordSize < data.length := Nat.not_le.mp hshort
        dsimp only
        rw [edit_setData_of_lt hlong, WordCall.splices, if_pos hlong]
  | setWord value index =>
      by_cases hplace : 0 ≤ index ∧ index < 255
      · obtain ⟨hlength, hbytes⟩ := splices_setWord value hplace (hbuffer m.payload)
        apply ext_getD
        · rw [hlength, hbuffer]
        · intro j
          rw [hbytes, getD_edit h.entered]
      · have hout : ¬ (0 ≤ index ∧ index < (maxWords : Int)) := hplace
        dsimp only
        rw [edit_setWord_of_not hout, WordCall.splices, if_neg hout]

/-- A refusal shows an index at most that has too many digits. -/
theorem Framed.isWordable_iff (h : m.Framed) {c : WordCall} {e : MessageError} (hrefused : m.respond c = .error e) :
    e.isWordable = true ↔ ∀ index, c = .read index → Number.isWritable index.value = true := by
  have hmemory := respond_memory h c
  rw [hrefused] at hmemory
  have hcount : Number.isWritable m.count.value = true := by
    obtain ⟨-, -, -, hlow, hhigh⟩ := headerFits_iff.mp h.headerFits
    have hcount : m.wordCount.natAbs < 10 ^ 3 := by omega
    have hdigits : 3 ≤ Number.digitLimit := by decide
    rw [Number.isWritable_iff]
    unfold Number.unwritable
    -- the power of the limit itself is not to be evaluated
    generalize Number.digitLimit = limit at hdigits ⊢
    exact Nat.lt_of_lt_of_le hcount (Nat.pow_le_pow_right (by decide) hdigits)
  cases c with
  | read index =>
      rw [WordMemory.respond] at hmemory
      split at hmemory
      · cases hmemory
      · obtain rfl : e = .wordOutside index m.count := Except.error.inj hmemory
        simp [MessageError.isWordable, hcount]
  | edit edit =>
      refine iff_of_true ?_ nofun
      cases edit with
      | copy => cases hmemory
      | setData data =>
          rw [WordMemory.respond] at hmemory
          split at hmemory
          · cases hmemory
          · obtain rfl : e = .dataTooLong data.length := Except.error.inj hmemory
            rfl
      | setWord value index =>
          rw [WordMemory.respond] at hmemory
          split at hmemory <;> cases hmemory

/-- To any calls a message responds as its memory does. -/
theorem serve_memory (h : m.Framed) (calls : List WordCall) :
    Prod.map memory id (serve respond m calls) = serve WordMemory.respond m.memory calls := by
  induction calls generalizing m with
  | nil => rfl
  | cons c calls ih =>
      have hstep := respond_memory h c
      have hleft : (leaves m (m.respond c)).memory = leaves m.memory (m.memory.respond c) := by
        rw [← hstep]
        cases m.respond c <;> rfl
      have hanswer : (m.respond c).map Prod.snd = (m.memory.respond c).map Prod.snd := by
        rw [← hstep]
        cases m.respond c <;> rfl
      rw [serve, serve, ← hleft, ← hanswer, ← ih (h.call c)]
      rfl

theorem framed_serve (h : m.Framed) (calls : List WordCall) : (serve respond m calls).1.Framed := by
  induction calls generalizing m with
  | nil => exact h
  | cons c calls ih => exact ih (h.call c)

theorem toList_serve (h : m.Framed) (calls : List WordCall) :
    (serve respond m calls).1.payload.toList = calls.foldl WordCall.splices m.payload.toList := by
  induction calls generalizing m with
  | nil => rfl
  | cons c calls ih =>
      rw [List.foldl_cons, ← toList_call h c]
      exact ih (h.call c)

theorem wordAt_ofList (hlength : filled.length ≤ 1024) :
    wordAt (Payload.ofList filled).toList = wordAt filled := by
  funext i
  apply wordAt_congr
  intro place _
  rw [toList_ofList_eq_splice hlength, getD_splice (Nat.zero_add _) (by rwa [List.length_replicate]), getD_zeros]
  by_cases hin : 4 * i + place < filled.length
  · rw [if_pos ⟨Nat.zero_le _, hin⟩, Nat.sub_zero]
  · rw [if_neg fun h => hin h.2, getD_of_le (Nat.not_lt.mp hin)]

/-- A call that a message passes over without a refusal. -/
def PassesOver : WordCall → Prop
  | .edit (.setWord _ index) => ¬ (0 ≤ index ∧ index < 255)
  | _ => False

/-- A message is a memory of words.  It is built from a line or with bytes for its buffer, and any calls are made
on it, with any arguments.  What they leave is the memory that they leave of these bytes, and they are answered or
refused as that memory answers and refuses; the buffer is the one that their slices leave, and has its size; the
header fields are bytes, so there is a line for it.  A call that is refused or passed over leaves the message, and a
refusal can be worded unless it is that of an index with too many digits. -/
theorem serve_refines (h : Built filled m) (calls : List WordCall) :
    ∃ left answers, serve respond m calls = (left, answers) ∧
      serve WordMemory.respond ⟨m.count, wordAt filled⟩ calls = (left.memory, answers) ∧
      left.payload.toList = calls.foldl WordCall.splices (splice (List.replicate 1024 0) 0 filled.length filled) ∧
      left.payload.toList.length = 1024 ∧ left.HeaderFits ∧
      (∀ c, (∃ e, left.respond c = .error e) ∨ PassesOver c → leaves left (left.respond c) = left) ∧
      (∀ c e, left.respond c = .error e →
        (e.isWordable = true ↔ ∀ index, c = .read index → Number.isWritable index.value = true)) ∧
      ∃ line, left.lineBytes = .ok line := by
  obtain ⟨hframed, hlength, hbuffer⟩ := h.framed
  have hleft := framed_serve hframed calls
  refine ⟨_, _, rfl, ?_, ?_, Vector.length_toList, hleft.headerFits, ?_, fun c e => hleft.isWordable_iff, _,
    lineBytes_of_headerFits hleft.headerFits⟩
  · have hmemory : m.memory = ⟨m.count, wordAt filled⟩ := by rw [memory, hbuffer, wordAt_ofList hlength]
    rw [← hmemory, ← serve_memory hframed]
    rfl
  · rw [toList_serve hframed, hbuffer, toList_ofList_eq_splice hlength]
  · rintro c (⟨e, hrefused⟩ | hpassed)
    · rw [hrefused]
      rfl
    · cases c with
      | read index => exact hpassed.elim
      | edit e =>
      cases e with
      | setWord value index => exact edit_setWord_of_not hpassed
      | setData data => exact hpassed.elim
      | copy => exact hpassed.elim

/-- Data that is too long is refused, a word is cut to 32 bits, and one behind the last is passed over; a copy
changes nothing, and shorter data leaves only its own words in use. -/
theorem serve_refines_short :
    ∃ m, make (.int 7) (.int 0) (.int 2) (.bool true) [1, 2, 3, 4, 5] = .ok m ∧
      (serve respond m [.read (0 : Int), .edit (.setData (List.replicate 1021 7)), .edit (.setWord (-1) 2),
        .edit (.setWord 9 255), .read (2 : Int), .read (3 : Int), .edit .copy, .edit (.setData [9, 8, 7]),
        .read (0 : Int), .read (-1 : Int)]).2 =
        [.ok (some 0x04030201), .error (.dataTooLong 1021), .ok none, .ok none, .ok (some 0xFFFFFFFF),
          .error (.wordOutside (3 : Int) (3 : Int)), .ok none, .ok none, .ok (some 0x070809),
          .error (.wordOutside (-1 : Int) (1 : Int))] := by
  have hmake : make (.int 7) (.int 0) (.int 2) (.bool true) [1, 2, 3, 4, 5] = .ok {
      command := 7, origin := 2, wordCount := 1, countIsTruth := true,
      payload := Payload.ofList [1, 2, 3, 4, 5] } := rfl
  refine ⟨_, hmake, ?_⟩
  obtain ⟨left, answers, hserve, hmemory, -⟩ := serve_refines (.made hmake) _
  rw [hserve]
  have hanswers := congrArg Prod.snd hmemory
  rw [← hanswers]
  simp only [serve, WordMemory.respond, List.length_replicate]
  rfl

end Message

end PeripheralLink

import PeripheralLink.Proofs.Message.Body
/-!
Calls that change a message, made on two messages that are equal.  Both take the same course: each call is
refused on both or on neither, and the headers stay the same.  The results are equal exactly if every byte in
use afterwards was written by one of the calls or was the same in both messages from the start, used or not.
So a word written with a gap before it brings into use what the buffer happened to hold there; as long as no
call leaves a gap, equal messages stay equal.

The main statements are `Message.same_edits` and `Message.same_edits_all_iff`, which says for which calls
equality is kept whatever the buffers hold.
-/

namespace PeripheralLink

/-- A call that changes a message, with its arguments.  A copy takes the place of what it was made from. -/
inductive Edit
  | setData (data : List UInt8)
  | setWord (value index : Int)
  | copy

namespace Edit

/-- What becomes of a message. -/
def run (m : Message) : Edit → Except MessageError Message
  | setData data => m.setData data
  | setWord value index => .ok (m.setWord value index)
  | copy => m.copy

/-- The byte that a call writes at a place of the buffer, whatever stood there. -/
def written? (j : Nat) : Edit → Option UInt8
  | setData data =>
      if maxWords * wordSize < data.length then none
      else if j < (data.length + wordSize - 1) / wordSize * wordSize then some (data.getD j 0)
      else none
  | setWord value index =>
      if 0 ≤ index ∧ index < maxWords ∧ j / wordSize = index.toNat then
        some (wordByte (value % Nat.pow 2 32).toNat (j % wordSize))
      else none
  | copy => none

def last? (j : Nat) : List Edit → Option UInt8
  | [] => none
  | e :: es => (last? j es).or (e.written? j)

/-- The word count after a call. -/
def count (n : Int) : Edit → Int
  | setData data =>
      if maxWords * wordSize < data.length then n else ((data.length + wordSize - 1) / wordSize : Nat)
  | setWord _ index => if 0 ≤ index ∧ index < maxWords ∧ n ≤ index then index + 1 else n
  | copy => n

end Edit

namespace Message

/-- The message after a call; one that is refused changes nothing. -/
def edit (m : Message) (e : Edit) : Message :=
  match e.run m with
  | .ok m' => m'
  | .error _ => m

def edits (m : Message) : List Edit → Message
  | [] => m
  | e :: es => (m.edit e).edits es

def refusal? (m : Message) (e : Edit) : Option MessageError :=
  match e.run m with
  | .ok _ => none
  | .error reason => some reason

/-- What becomes of each of the calls. -/
def refusals (m : Message) : List Edit → List (Option MessageError)
  | [] => []
  | e :: es => m.refusal? e :: (m.edit e).refusals es

/-- A count that was entered as a truth value is zero or one. -/
def Entered (m : Message) : Prop := m.countIsTruth = true → m.wordCount = 0 ∨ m.wordCount = 1

/-- The header fields of two messages are the same. -/
def SameHeader (a b : Message) : Prop :=
  a.command = b.command ∧ a.destination = b.destination ∧ a.origin = b.origin ∧ a.wordCount = b.wordCount

variable {a b m : Message}

def checkHeader (m : Message) : Except MessageError Unit := do
  let _ ← checkByte .command (.int m.command)
  let _ ← checkByte .destination (.int m.destination)
  let _ ← checkByte .origin (.int m.origin)
  let _ ← checkByte .wordCount (.int m.wordCount)

theorem checkByte_eq_ok {field : HeaderField} {n k : Int} (h : checkByte field (.int n) = .ok k) : k = n := by
  simp only [checkByte, Value.int?] at h
  split at h
  · exact (Except.ok.inj h).symm
  · cases h

theorem checkByte_entered (h : m.Entered) :
    checkByte .wordCount m.count.entered = checkByte .wordCount (.int m.wordCount) := by
  rw [Whole.entered, count]
  split
  · rcases h ‹_› with hcount | hcount <;> rw [hcount] <;> rfl
  · rfl

theorem ofList_toList (p : Payload) : Payload.ofList p.toList = p := by
  ext i hi
  simp [Payload.ofList, Array.getD]

/-- A copy is the message itself, unless a header field is no byte. -/
theorem copy_eq (h : m.Entered) : m.copy = m.checkHeader.map fun _ => m := by
  have hroom : ¬ capacity < m.payload.toList.length := by simp
  simp only [copy, make, checkByte_entered h, checkHeader, hroom, ofList_toList]
  cases hcommand : checkByte .command (.int m.command) with
  | error e => rfl
  | ok command =>
  cases hdestination : checkByte .destination (.int m.destination) with
  | error e => rfl
  | ok destination =>
  cases horigin : checkByte .origin (.int m.origin) with
  | error e => rfl
  | ok origin =>
  cases hcount : checkByte .wordCount (.int m.wordCount) with
  | error e => rfl
  | ok count =>
    rw [checkByte_eq_ok hcommand, checkByte_eq_ok hdestination, checkByte_eq_ok horigin, checkByte_eq_ok hcount]
    -- a count that is a truth value is entered as one
    have hkept {truth : Bool} (htruth : m.countIsTruth = truth) :
        Except.ok (ε := MessageError) { m with countIsTruth := truth } = .ok m := by rw [← htruth]
    cases htruth : m.countIsTruth <;> simp only [Whole.entered, Message.count, htruth] <;> exact hkept htruth

theorem edit_copy (h : m.Entered) : m.edit .copy = m := by
  rw [edit, Edit.run, copy_eq h]
  cases m.checkHeader <;> rfl

theorem edit_setData_of_lt {data : List UInt8} (hlong : maxWords * wordSize < data.length) :
    m.edit (.setData data) = m := by
  rw [edit, Edit.run, setData, if_pos hlong]

theorem edit_setData {data : List UInt8} (hshort : ¬ maxWords * wordSize < data.length) :
    m.edit (.setData data) =
      { m with
        wordCount := ((data.length + wordSize - 1) / wordSize : Nat)
        countIsTruth := false
        payload := m.payload.overwrite data ((data.length + wordSize - 1) / wordSize * wordSize) } := by
  rw [edit, Edit.run, setData, if_neg hshort]

theorem edit_setWord_of_not {value index : Int} (hplace : ¬ (0 ≤ index ∧ index < maxWords)) :
    m.edit (.setWord value index) = m :=
  if_pos (show index < 0 ∨ (maxWords : Int) ≤ index by omega)

theorem edit_setWord {value index : Int} (hplace : 0 ≤ index ∧ index < maxWords) :
    m.edit (.setWord value index) =
      { m with
        wordCount := if m.wordCount ≤ index then index + 1 else m.wordCount
        countIsTruth := if m.wordCount ≤ index then false else m.countIsTruth
        payload := m.payload.writeWord (value % Nat.pow 2 32).toNat index.toNat } := by
  have hinside : ¬ (index < 0 ∨ (maxWords : Int) ≤ index) := by omega
  simp only [edit, Edit.run, setWord, hinside, if_false]
  split <;> rfl

/-- A call keeps the header but for the count, which follows from the one before, and writes its own bytes. -/
theorem edit_spec (h : m.Entered) (e : Edit) :
    ((m.edit e).command = m.command ∧ (m.edit e).destination = m.destination ∧ (m.edit e).origin = m.origin ∧
      (m.edit e).wordCount = e.count m.wordCount) ∧
    (m.edit e).Entered ∧
    ∀ j (hj : j < capacity), (m.edit e).payload[j] = (e.written? j).getD m.payload[j] := by
  cases e with
  | copy =>
      rw [edit_copy h]
      exact ⟨⟨rfl, rfl, rfl, rfl⟩, h, fun _ _ => rfl⟩
  | setData data =>
      by_cases hlong : maxWords * wordSize < data.length
      · rw [edit_setData_of_lt hlong, Edit.count, if_pos hlong]
        refine ⟨⟨rfl, rfl, rfl, rfl⟩, h, fun j _ => ?_⟩
        rw [Edit.written?, if_pos hlong, Option.getD_none]
      · rw [edit_setData hlong, Edit.count, if_neg hlong]
        refine ⟨⟨rfl, rfl, rfl, rfl⟩, nofun, fun j hj => ?_⟩
        rw [Edit.written?, if_neg hlong]
        have hpadded : data.length ≤ (data.length + wordSize - 1) / wordSize * wordSize := by
          simp only [wordSize]
          omega
        simp only [Payload.overwrite, Vector.getElem_ofFn, List.size_toArray, Array.getD_eq_getD_getElem?,
          List.getElem?_toArray, List.getD_eq_getElem?_getD]
        by_cases hdata : j < data.length
        · rw [if_pos hdata, if_pos (show j < _ by omega), Option.getD_some]
        · rw [if_neg hdata, List.getElem?_eq_none (Nat.not_lt.mp hdata)]
          split <;> rfl
  | setWord value index =>
      by_cases hplace : 0 ≤ index ∧ index < maxWords
      · rw [edit_setWord hplace]
        refine ⟨⟨rfl, rfl, rfl, ?_⟩, ?_, fun j hj => ?_⟩
        · simp only [Edit.count, hplace, true_and]
        · intro htruth
          dsimp only at htruth ⊢
          split at htruth
          · cases htruth
          · rw [if_neg ‹_›]
            exact h htruth
        · simp only [Edit.written?, hplace, true_and, Payload.writeWord, Vector.getElem_ofFn]
          split <;> rfl
      · rw [edit_setWord_of_not hplace]
        refine ⟨⟨rfl, rfl, rfl, ?_⟩, h, fun j _ => ?_⟩
        · rw [Edit.count, if_neg fun hin => hplace ⟨hin.1, hin.2.1⟩]
        · rw [Edit.written?, if_neg fun hin => hplace ⟨hin.1, hin.2.1⟩, Option.getD_none]

theorem Entered.edits (h : m.Entered) (es : List Edit) : (m.edits es).Entered := by
  induction es generalizing m with
  | nil => exact h
  | cons e es ih => exact ih (edit_spec h e).2.1

theorem getElem_edits (h : m.Entered) (es : List Edit) {j : Nat} (hj : j < capacity) :
    (m.edits es).payload[j] = (Edit.last? j es).getD m.payload[j] := by
  induction es generalizing m with
  | nil => rfl
  | cons e es ih =>
      obtain ⟨-, hentered, hwritten⟩ := edit_spec h e
      rw [edits, ih hentered, hwritten j hj, Edit.last?]
      cases Edit.last? j es <;> rfl

theorem sameHeader_edit (ha : a.Entered) (hb : b.Entered) (h : SameHeader a b) (e : Edit) :
    SameHeader (a.edit e) (b.edit e) := by
  obtain ⟨hcommand, hdestination, horigin, hcount⟩ := h
  obtain ⟨⟨hcommanda, hdestinationa, horigina, hcounta⟩, -⟩ := edit_spec ha e
  obtain ⟨⟨hcommandb, hdestinationb, horiginb, hcountb⟩, -⟩ := edit_spec hb e
  refine ⟨?_, ?_, ?_, ?_⟩
  · rw [hcommanda, hcommandb, hcommand]
  · rw [hdestinationa, hdestinationb, hdestination]
  · rw [horigina, horiginb, horigin]
  · rw [hcounta, hcountb, hcount]

theorem sameHeader_edits (ha : a.Entered) (hb : b.Entered) (h : SameHeader a b) (es : List Edit) :
    SameHeader (a.edits es) (b.edits es) := by
  induction es generalizing a b with
  | nil => exact h
  | cons e es ih => exact ih (edit_spec ha e).2.1 (edit_spec hb e).2.1 (sameHeader_edit ha hb h e)

/-- Whether a call is refused, and why, is for the header and the arguments to say. -/
theorem refusal?_congr (ha : a.Entered) (hb : b.Entered) (h : SameHeader a b) (e : Edit) :
    a.refusal? e = b.refusal? e := by
  obtain ⟨hcommand, hdestination, horigin, hcount⟩ := h
  cases e with
  | setData data =>
      by_cases hlong : maxWords * wordSize < data.length <;>
        simp only [refusal?, Edit.run, setData, hlong, if_true, if_false]
  | setWord value index => rfl
  | copy =>
      have hcheck : a.checkHeader = b.checkHeader := by
        rw [checkHeader, checkHeader, hcommand, hdestination, horigin, hcount]
      simp only [refusal?, Edit.run, copy_eq ha, copy_eq hb, hcheck]
      cases b.checkHeader <;> rfl

theorem refusals_congr (ha : a.Entered) (hb : b.Entered) (h : SameHeader a b) (es : List Edit) :
    a.refusals es = b.refusals es := by
  induction es generalizing a b with
  | nil => rfl
  | cons e es ih =>
      rw [refusals, refusals, refusal?_congr ha hb h,
        ih (edit_spec ha e).2.1 (edit_spec hb e).2.1 (sameHeader_edit ha hb h e)]

theorem length_data_eq (m : Message) : m.data.length = sliceBound capacity m.dataSize := by
  have hle : sliceBound capacity m.dataSize ≤ capacity := by
    rw [sliceBound]
    split
    · omega
    · exact Nat.min_le_right _ _
  rw [data, List.length_take, Vector.length_toList]
  exact Nat.min_eq_left hle

theorem length_data_congr (h : SameHeader a b) : a.data.length = b.data.length := by
  rw [length_data_eq, length_data_eq, dataSize, dataSize, h.2.2.2]

theorem length_data_of_nonneg (h : 0 ≤ m.wordCount) :
    m.data.length = min (m.wordCount.toNat * wordSize) capacity := by
  have hnonneg : ¬ m.dataSize < 0 := by
    simp only [dataSize, wordSize]
    omega
  rw [length_data_eq, sliceBound, if_neg hnonneg, dataSize]
  simp only [wordSize]
  omega

theorem getElem?_data (m : Message) {j : Nat} (hj : j < capacity) :
    m.data[j]? = if j < m.data.length then some m.payload[j] else none := by
  rw [length_data_eq, data, List.getElem?_take]
  simp [hj]

/-- Messages are equal if their headers are the same, and their buffers as far as they are in use. -/
theorem same_iff_sameHeader :
    a.same b = true ↔ SameHeader a b ∧
      ∀ j (hj : j < capacity), j < a.data.length → a.payload[j] = b.payload[j] := by
  rw [same_iff, SameHeader]
  constructor
  · rintro ⟨hcommand, hdestination, horigin, hcount, hdata⟩
    refine ⟨⟨hcommand, hdestination, horigin, hcount⟩, fun j hj hin => ?_⟩
    have hbyte : a.data[j]? = b.data[j]? := by rw [hdata]
    rw [getElem?_data a hj, getElem?_data b hj, ← hdata, if_pos hin, if_pos hin] at hbyte
    exact Option.some.inj hbyte
  · rintro ⟨⟨hcommand, hdestination, horigin, hcount⟩, hbytes⟩
    refine ⟨hcommand, hdestination, horigin, hcount, ?_⟩
    have hlength : a.data.length = b.data.length :=
      length_data_congr ⟨hcommand, hdestination, horigin, hcount⟩
    refine List.ext_getElem? fun j => ?_
    by_cases hj : j < capacity
    · rw [getElem?_data a hj, getElem?_data b hj, ← hlength]
      split
      · rw [hbytes j hj ‹_›]
      · rfl
    · have hle (m : Message) : m.data.length ≤ j := by
        rw [data, List.length_take, Vector.length_toList]
        omega
      rw [List.getElem?_eq_none (hle a), List.getElem?_eq_none (hle b)]

/-- The results of calls are equal exactly if each byte that is in use afterwards was written by one of the
calls, or was the same from the start. -/
theorem same_edits_iff (ha : a.Entered) (hb : b.Entered) (h : SameHeader a b) (es : List Edit) :
    (a.edits es).same (b.edits es) = true ↔ ∀ j (hj : j < capacity), j < (a.edits es).data.length →
      Edit.last? j es ≠ none ∨ a.payload[j] = b.payload[j] := by
  rw [same_iff_sameHeader, and_iff_right (sameHeader_edits ha hb h es)]
  refine forall_congr' fun j => forall_congr' fun hj => imp_congr_right fun _ => ?_
  rw [getElem_edits ha es hj, getElem_edits hb es hj]
  cases Edit.last? j es <;> simp

theorem readWord_congr {p q : Payload} {index : Nat} (h : index * wordSize + wordSize ≤ capacity)
    (hbytes : ∀ j (hj : j < capacity), j < index * wordSize + wordSize → p[j] = q[j]) :
    p.readWord index h = q.readWord index h := by
  have hsize : wordSize = 4 := rfl
  have hbyte (place : Nat) (hlt : place < wordSize) :=
    hbytes (index * wordSize + place) (by omega) (by omega)
  have hfirst := hbyte 0 (by omega)
  have hsecond := hbyte 1 (by omega)
  have hthird := hbyte 2 (by omega)
  have hfourth := hbyte 3 (by omega)
  simp only [Nat.add_zero] at hfirst
  simp only [Payload.readWord, hfirst, hsecond, hthird]
  exact congrArg (fun byte : UInt8 => _ + 16777216 * byte.toNat) hfourth

/-- A word of equal messages is the same in both, or lies outside the words in use of both. -/
theorem getWord_of_same (h : a.same b = true) (index : Whole) :
    a.getWord index = b.getWord index ∨
      a.getWord index = .error (.wordOutside index a.count) ∧
        b.getWord index = .error (.wordOutside index b.count) := by
  obtain ⟨⟨-, -, -, hcount⟩, hbytes⟩ := same_iff_sameHeader.mp h
  simp only [getWord, ← hcount]
  by_cases hplace : index.value < 0 ∨ a.wordCount ≤ index.value
  · exact .inr ⟨if_pos hplace, if_pos hplace⟩
  · left
    simp only [hplace, if_false]
    by_cases hfits : index.value.toNat * wordSize + wordSize ≤ capacity
    · have hin : index.value.toNat * wordSize + wordSize ≤ a.data.length := by
        rw [length_data_of_nonneg (by omega)]
        simp only [wordSize] at hfits ⊢
        omega
      simp only [hfits, dite_true, readWord_congr hfits fun j hj hlt => hbytes j hj (by omega)]
    · simp only [hfits, dite_false]

/-- Of messages whose headers are bytes, equal ones have the same line and only they. -/
theorem lineBytes_eq_iff (ha : a.HeaderFits) (hb : b.HeaderFits) :
    a.lineBytes = b.lineBytes ↔ a.same b = true := by
  refine ⟨fun h => ?_, lineBytes_of_same⟩
  rw [lineBytes_of_headerFits ha, lineBytes_of_headerFits hb, Except.ok.injEq, List.append_cancel_right_eq] at h
  exact same_of_body_eq h

/-- A call leaves no gap: a word that it writes stands among the bytes in use or right behind them. -/
def Adjoins (m : Message) : Edit → Prop
  | .setWord _ index => 0 ≤ index ∧ index < maxWords → index.toNat * wordSize ≤ m.data.length
  | _ => True

/-- None of the calls leaves a gap. -/
def Gapless (m : Message) : List Edit → Prop
  | [] => True
  | e :: es => m.Adjoins e ∧ (m.edit e).Gapless es

/-- A call that leaves no gap has written whatever it brings into use. -/
theorem written_or_inUse (hm : m.Entered) {e : Edit} (hadjoins : m.Adjoins e) {j : Nat}
    (hin : j < (m.edit e).data.length) : e.written? j ≠ none ∨ j < m.data.length := by
  cases e with
  | copy => exact .inr (edit_copy hm ▸ hin)
  | setData data =>
      by_cases hlong : maxWords * wordSize < data.length
      · rw [edit_setData_of_lt hlong] at hin
        exact .inr hin
      · left
        rw [edit_setData hlong, length_data_of_nonneg (Int.natCast_nonneg _)] at hin
        have hpadded : j < (data.length + wordSize - 1) / wordSize * wordSize := by
          rw [Int.toNat_natCast] at hin
          omega
        rw [Edit.written?, if_neg hlong, if_pos hpadded]
        exact Option.some_ne_none _
  | setWord value index =>
      by_cases hplace : 0 ≤ index ∧ index < maxWords
      · by_cases hcount : m.wordCount ≤ index
        · have hbehind := hadjoins hplace
          rw [edit_setWord hplace, length_data_of_nonneg (by dsimp only; omega), if_pos hcount] at hin
          by_cases hword : j < index.toNat * wordSize
          · exact .inr (by omega)
          · left
            have hlast : j / wordSize = index.toNat := by
              simp only [wordSize] at hin hword ⊢
              omega
            rw [Edit.written?, if_pos ⟨hplace.1, hplace.2, hlast⟩]
            exact Option.some_ne_none _
        · right
          rwa [length_data_eq, dataSize, (edit_spec hm _).1.2.2.2, Edit.count, if_neg fun h => hcount h.2.2,
            ← dataSize, ← length_data_eq] at hin
      · rw [edit_setWord_of_not hplace] at hin
        exact .inr hin

theorem same_edit_of_adjoins (ha : a.Entered) (hb : b.Entered) (h : a.same b = true) {e : Edit}
    (hadjoins : a.Adjoins e) : (a.edit e).same (b.edit e) = true := by
  obtain ⟨hheader, hbytes⟩ := same_iff_sameHeader.mp h
  refine (same_edits_iff ha hb hheader [e]).mpr fun j hj hin => ?_
  exact (written_or_inUse ha hadjoins hin).imp id (hbytes j hj)

/-- As long as no call leaves a gap, equal messages stay equal. -/
theorem same_edits_of_gapless (ha : a.Entered) (hb : b.Entered) (h : a.same b = true) {es : List Edit}
    (hgapless : a.Gapless es) : (a.edits es).same (b.edits es) = true := by
  induction es generalizing a b with
  | nil => exact h
  | cons e es ih =>
      exact ih (edit_spec ha e).2.1 (edit_spec hb e).2.1 (same_edit_of_adjoins ha hb h hgapless.1) hgapless.2

/-- Calls make equal messages of all equal messages with a given header exactly if they have written whatever
they bring into use. -/
theorem same_edits_all_iff (hm : m.Entered) (es : List Edit) :
    (∀ a b : Message, a.Entered → b.Entered → SameHeader m a → a.same b = true →
      (a.edits es).same (b.edits es) = true) ↔
    ∀ j < (m.edits es).data.length, m.data.length ≤ j → Edit.last? j es ≠ none := by
  constructor
  · intro hall j hj hbehind
    have hroom : j < capacity := by
      rw [data, List.length_take, Vector.length_toList] at hj
      omega
    -- the message itself, and one that differs from it at the place in question
    let other : Message := { m with payload := m.payload.set j (m.payload[j] + 1) hroom }
    have hsame : m.same other = true := by
      refine same_iff_sameHeader.mpr ⟨⟨rfl, rfl, rfl, rfl⟩, fun i hi hin => ?_⟩
      exact (Vector.getElem_set_ne hroom hi (by omega)).symm
    have hresult := hall m other hm hm ⟨rfl, rfl, rfl, rfl⟩ hsame
    rcases (same_edits_iff hm (b := other) hm ⟨rfl, rfl, rfl, rfl⟩ es).mp hresult j hroom hj with hwritten | hbyte
    · exact hwritten
    · rw [Vector.getElem_set_self] at hbyte
      exact absurd hbyte (by simp)
  · intro hcovered a b ha hb hheader hsame
    obtain ⟨hheader', hbytes⟩ := same_iff_sameHeader.mp hsame
    refine (same_edits_iff ha hb hheader' es).mpr fun j hj hin => ?_
    by_cases hbehind : m.data.length ≤ j
    · rw [← length_data_congr (sameHeader_edits hm ha hheader es)] at hin
      exact .inl (hcovered j hin hbehind)
    · rw [length_data_congr hheader] at hbehind
      exact .inr (hbytes j hj (Nat.lt_of_not_le hbehind))

/-- Calls on equal messages.  Each of them is refused on both or on neither, with one reason, and the headers stay
the same.  The results are equal exactly if every byte in use afterwards was written by one of the calls or was
the same in both messages from the start, used or not; so they are if no call leaves a gap.  Equal results cannot
be told apart by their words or by their line, and unequal ones whose headers are bytes have different lines. -/
theorem same_edits (ha : a.Entered) (hb : b.Entered) (hsame : a.same b = true) (es : List Edit) :
    a.refusals es = b.refusals es ∧ SameHeader (a.edits es) (b.edits es) ∧
      ((a.edits es).same (b.edits es) = true ↔ ∀ j (hj : j < capacity), j < (a.edits es).data.length →
        Edit.last? j es ≠ none ∨ a.payload[j] = b.payload[j]) ∧
      (a.Gapless es → (a.edits es).same (b.edits es) = true) ∧
      ((a.edits es).same (b.edits es) = true → (a.edits es).lineBytes = (b.edits es).lineBytes ∧
        ∀ index, (a.edits es).getWord index = (b.edits es).getWord index ∨
          (a.edits es).getWord index = .error (.wordOutside index (a.edits es).count) ∧
            (b.edits es).getWord index = .error (.wordOutside index (b.edits es).count)) ∧
      ((a.edits es).HeaderFits → (a.edits es).lineBytes = (b.edits es).lineBytes →
        (a.edits es).same (b.edits es) = true) := by
  have hheader := (same_iff_sameHeader.mp hsame).1
  have hheaders := sameHeader_edits ha hb hheader es
  refine ⟨refusals_congr ha hb hheader es, hheaders, same_edits_iff ha hb hheader es,
    same_edits_of_gapless ha hb hsame, fun h => ⟨lineBytes_of_same h, getWord_of_same h⟩, fun hfits hlines => ?_⟩
  have hfits' : (b.edits es).HeaderFits := by
    obtain ⟨hcommand, hdestination, horigin, hcount⟩ := hheaders
    rw [headerFits_iff] at hfits ⊢
    rwa [← hcommand, ← hdestination, ← horigin, ← hcount]
  exact (lineBytes_eq_iff hfits hfits').mp hlines

/-- Two messages without words, one of which has four bytes in its buffer all the same.  They are equal, and no
longer so when the word at index one has been written: the four bytes are in use then. -/
theorem same_edits_stale :
    ∃ a b : Message, a = { payload := Payload.ofList [0xAA, 0xBB, 0xCC, 0xDD] } ∧ b = {} ∧ a.same b = true ∧
      (a.edits [.setWord 5 1]).same (b.edits [.setWord 5 1]) = false ∧
      (a.edits [.setWord 5 1]).lineBytes ≠ (b.edits [.setWord 5 1]).lineBytes := by
  refine ⟨_, _, rfl, rfl, rfl, ?_⟩
  obtain ⟨-, -, hiff, -, -, hlines⟩ := same_edits (a := { payload := Payload.ofList [0xAA, 0xBB, 0xCC, 0xDD] })
    (b := {}) nofun nofun rfl [.setWord 5 1]
  have hroom : 0 < capacity := by decide
  have hdiffer : ¬ _ := mt hiff.mp fun h => by
    rcases h 0 hroom (by rw [length_data_of_nonneg (by decide)]; decide) with hwritten | hbyte
    · exact hwritten rfl
    · dsimp only at hbyte
      rw [Vector.getElem_replicate, Payload.ofList, Vector.getElem_ofFn] at hbyte
      exact absurd hbyte (by decide +revert)
  exact ⟨Bool.eq_false_iff.mpr hdiffer, fun h => hdiffer (hlines (headerFits_iff.mpr (by decide)) h)⟩

end Message

end PeripheralLink

import Mathlib.Data.List.Basic
import Mathlib.Data.List.Forall2
import PeripheralLink.Proofs.Message.Wording
import PeripheralLink.Proofs.Text.Tokens
/-!
The grammar of lines.  `Carries` says what the tokens of a line stand for and `Refuses` what is the first
thing wrong with them; neither mentions how they are read.  Every list of tokens is either carried or
refused (`carries_or_refuses`), and reading it comes to the message or to the refusal.

The main statement is `Codec.parse_grammar`, for lines of bytes.
-/

namespace PeripheralLink

open Text

/-- The tokens of a line carry a message: four bytes of a header, four for each word that the header
counts, and anything after them. -/
inductive Carries (tokens : List (List Char)) : Message → Prop
  | intro {header data rest : List (List Char)} {command destination origin count : UInt8}
      {bytes : List UInt8} {payload : Payload} (htokens : tokens = header ++ data ++ rest)
      (hheader : List.Forall₂ HexByte header [command, destination, origin, count])
      (hdata : List.Forall₂ HexByte data bytes) (hlength : bytes.length = 4 * count.toNat)
      (hpayload : payload.toList = bytes ++ List.replicate (1024 - bytes.length) 0) :
      Carries tokens {
        command := command.toNat
        destination := destination.toNat
        origin := origin.toNat
        wordCount := count.toNat
        payload }

/-- Tokens enough for a header, of which those before the rest are bytes. -/
structure ReadUpTo (tokens read rest : List (List Char)) : Prop where
  tokens_eq : tokens = read ++ rest
  four_le : 4 ≤ tokens.length
  bytes : ∀ token ∈ read, ∃ b, HexByte token b

/-- Why the tokens of a line carry no message: the first thing that is wrong with them. -/
inductive Refuses (tokens : List (List Char)) : FrameError → Prop
  | headerIncomplete (h : tokens.length < 4) : Refuses tokens (.headerIncomplete tokens.length)
  | header {read rest : List (List Char)} {token : List Char} {field : HeaderField}
      (h : ReadUpTo tokens read (token :: rest))
      (hfield : [HeaderField.command, .destination, .origin][read.length]? = some field)
      (htoken : ¬ ∃ b, HexByte token b) : Refuses tokens (.notHexByte (.header field) token)
  | notHexCount {read rest : List (List Char)} {token : List Char}
      (h : ReadUpTo tokens read (token :: rest)) (hplace : read.length = 3)
      (htoken : ¬ ∃ n, Denotes token n) : Refuses tokens (.notHexCount token)
  | countTooLarge {read rest : List (List Char)} {token : List Char} {n : Nat}
      (h : ReadUpTo tokens read (token :: rest)) (hplace : read.length = 3) (hn : Denotes token n)
      (hover : 1024 < 4 * n) : Refuses tokens (.countTooLarge n)
  /-- A number that the buffer could hold, but not in two digits. -/
  | countNotByte {read rest : List (List Char)} {token : List Char} {n : Nat}
      (h : ReadUpTo tokens read (token :: rest)) (hplace : read.length = 3) (hn : Denotes token n)
      (hfits : 4 * n ≤ 1024) (hlength : token.length ≠ 2) :
      Refuses tokens (.notHexByte (.header .wordCount) token)
  | truncated {read rest : List (List Char)} {token : List Char} {count : UInt8}
      (h : ReadUpTo tokens read (token :: rest)) (hplace : read.length = 3)
      (hcount : HexByte token count) (hshort : rest.length < 4 * count.toNat) :
      Refuses tokens (.truncated (4 * count.toNat) rest.length)
  | data {header before after : List (List Char)} {last token : List Char} {count : UInt8}
      (h : ReadUpTo tokens (header ++ last :: before) (token :: after)) (hplace : header.length = 3)
      (hcount : HexByte last count) (hwithin : before.length < 4 * count.toNat)
      (henough : 4 * count.toNat ≤ (before ++ token :: after).length)
      (htoken : ¬ ∃ b, HexByte token b) : Refuses tokens (.notHexByte (.data before.length) token)

/-- The error as it is raised: an excess is reported with the size that it comes to. -/
def FrameError.voiced : FrameError → FrameError
  | countTooLarge count => .reporting (count * wordSize : Nat) (.countTooLarge count)
  | e => e

/-- Either all members of a list have a property or there is a first one that has not. -/
theorem all_or_first_not {α : Type} (p : α → Prop) (xs : List α) :
    (∀ x ∈ xs, p x) ∨
      ∃ before x after, xs = before ++ x :: after ∧ (∀ y ∈ before, p y) ∧ ¬ p x := by
  induction xs with
  | nil =>
      left
      simp
  | cons first rest ih =>
      by_cases hfirst : p first
      · rcases ih with hrest | ⟨before, x, after, rfl, hbefore, hx⟩
        · left
          simpa using ⟨hfirst, hrest⟩
        · right
          exact ⟨first :: before, x, after, rfl, by simpa using ⟨hfirst, hbefore⟩, hx⟩
      · right
        exact ⟨[], first, rest, rfl, by simp, hfirst⟩

section

variable {token : List Char}

theorem readByte_of_hexByte {b : UInt8} (h : HexByte token b) (field : LineField) :
    readByte field token = .ok b := by
  rw [readByte, hexByte?_eq_some_iff.mpr h]

theorem readByte_of_not (h : ¬ ∃ b, HexByte token b) (field : LineField) :
    readByte field token = .error (.notHexByte field token) := by
  rw [readByte, hexByte?_eq_none_iff.mpr h]

theorem four_mul_le_of_hexByte {b : UInt8} {n : Nat} (h : HexByte token b) (hn : Denotes token n) :
    4 * n ≤ 1024 := by
  have hb := b.toNat_lt
  rw [← h.denotes.eq hn]
  omega

theorem capacity_lt_iff {n : Nat} : capacity < n * wordSize ↔ 1024 < 4 * n := by
  rw [capacity, wordSize, Nat.mul_comm]

theorem readCount_of_not (h : ¬ ∃ n, Denotes token n) :
    readCount token = .error (.notHexCount token) := by
  rw [readCount, hexNumber?_eq_none_iff.mpr h]

theorem readCount_of_lt {n : Nat} (hn : Denotes token n) (hover : 1024 < 4 * n) :
    readCount token = .error (FrameError.voiced (.countTooLarge n)) := by
  rw [readCount, hexNumber?_eq_some_iff.mpr hn]
  exact if_pos (capacity_lt_iff.mpr hover)

theorem readCount_of_le {n : Nat} (hn : Denotes token n) (hfits : 4 * n ≤ 1024) :
    readCount token = readByte (.header .wordCount) token := by
  rw [readCount, hexNumber?_eq_some_iff.mpr hn]
  exact if_neg fun hover => Nat.not_lt.mpr hfits (capacity_lt_iff.mp hover)

theorem readCount_of_hexByte {count : UInt8} (h : HexByte token count) :
    readCount token = .ok count := by
  rw [readCount_of_le h.denotes (four_mul_le_of_hexByte h h.denotes), readByte_of_hexByte h]

end

section

variable {tokens : List (List Char)} {index : Nat}

theorem readData_of_hexBytes {bytes : List UInt8} (h : List.Forall₂ HexByte tokens bytes) :
    readData index tokens = .ok bytes := by
  induction h generalizing index with
  | nil => rfl
  | cons hfirst _ ih =>
      rw [readData, readByte_of_hexByte hfirst]
      dsimp only
      rw [ih]
      rfl

theorem exists_hexBytes (h : ∀ token ∈ tokens, ∃ b, HexByte token b) :
    ∃ bytes, List.Forall₂ HexByte tokens bytes := by
  induction tokens with
  | nil => exact ⟨[], .nil⟩
  | cons token rest ih =>
      obtain ⟨b, hb⟩ := h token List.mem_cons_self
      obtain ⟨bytes, hbytes⟩ := ih fun t ht => h t (List.mem_cons_of_mem token ht)
      exact ⟨b :: bytes, .cons hb hbytes⟩

theorem readData_of_not {before after : List (List Char)} {token : List Char}
    (hbefore : ∀ t ∈ before, ∃ b, HexByte t b) (htoken : ¬ ∃ b, HexByte token b) :
    readData index (before ++ token :: after) =
      .error (.notHexByte (.data (index + before.length)) token) := by
  induction before generalizing index with
  | nil =>
      rw [List.nil_append, readData, readByte_of_not htoken]
      rfl
  | cons first before ih =>
      obtain ⟨b, hb⟩ := hbefore first List.mem_cons_self
      rw [List.cons_append, readData, readByte_of_hexByte hb]
      dsimp only
      rw [ih fun t ht => hbefore t (List.mem_cons_of_mem first ht), List.length_cons]
      rw [Nat.add_assoc, Nat.add_comm 1]
      rfl

end

section

variable {tokens read rest : List (List Char)}

/-- The payload of a message that is read is that of its bytes. -/
theorem toList_ofList {bytes : List UInt8} (hlength : bytes.length ≤ 1024) :
    (Payload.ofList bytes).toList = bytes ++ List.replicate (1024 - bytes.length) 0 := by
  apply List.ext_getElem
  · rw [Vector.length_toList, List.length_append, List.length_replicate, capacity]
    omega
  · intro i h₁ h₂
    rw [List.getElem_append]
    split
    · rename_i hi
      simp [Payload.ofList, hi]
    · rename_i hi
      simp [Payload.ofList, Nat.not_lt.mp hi]

/-- What reading comes to once the header is known to be bytes. -/
theorem readTokens_of_header {command destination origin count : List Char} {c d o n : UInt8}
    (hcommand : HexByte command c) (hdestination : HexByte destination d) (horigin : HexByte origin o)
    (hcount : HexByte count n) (rest : List (List Char)) :
    readTokens (command :: destination :: origin :: count :: rest) =
      if rest.length < 4 * n.toNat then .error (.truncated (4 * n.toNat) rest.length)
      else (readData 0 (rest.take (4 * n.toNat))).map fun data => {
        command := c.toNat
        destination := d.toNat
        origin := o.toNat
        wordCount := n.toNat
        payload := Payload.ofList data } := by
  simp only [readTokens, readByte_of_hexByte hcommand, readByte_of_hexByte hdestination,
    readByte_of_hexByte horigin, readCount_of_hexByte hcount, wordSize, Nat.mul_comm n.toNat, bind,
    Except.bind]
  split
  · rfl
  · cases readData 0 (rest.take (4 * n.toNat)) <;> rfl

theorem readTokens_of_carries {m : Message} (h : Carries tokens m) : readTokens tokens = .ok m := by
  obtain @⟨header, data, rest, _, _, _, count, bytes, payload, rfl, hheader, hdata, hlength, hpayload⟩ := h
  obtain _ | ⟨hcommand, _ | ⟨hdestination, _ | ⟨horigin, _ | ⟨hcount, ⟨⟩⟩⟩⟩⟩ := hheader
  have hsize : data.length = 4 * count.toNat := hdata.length_eq.trans hlength
  have hbound : bytes.length ≤ 1024 := by
    have hlt := count.toNat_lt
    omega
  have hbuffer : payload = Payload.ofList bytes :=
    Vector.toList_inj.mp (hpayload.trans (toList_ofList hbound).symm)
  have henough : ¬ (data ++ rest).length < 4 * count.toNat := by
    rw [List.length_append]
    omega
  have hdeclared : (data ++ rest).take (4 * count.toNat) = data := List.take_left' hsize
  simp only [List.cons_append, List.nil_append]
  rw [readTokens_of_header hcommand hdestination horigin hcount, if_neg henough, hdeclared,
    readData_of_hexBytes hdata, hbuffer]
  rfl

theorem exists_four {tokens : List (List Char)} (h : 4 ≤ tokens.length) :
    ∃ first second third fourth others, tokens = first :: second :: third :: fourth :: others := by
  match tokens, h with
  | first :: second :: third :: fourth :: others, _ => exact ⟨first, second, third, fourth, others, rfl⟩

/-- The three bytes of a header before its word count. -/
theorem exists_three {header : List (List Char)} (hbytes : ∀ token ∈ header, ∃ b, HexByte token b)
    (hplace : header.length = 3) :
    ∃ command destination origin c d o, HexByte command c ∧ HexByte destination d ∧ HexByte origin o ∧
      header = [command, destination, origin] := by
  obtain ⟨command, destination, origin, rfl⟩ := List.length_eq_three.mp hplace
  obtain ⟨c, hc⟩ := hbytes command (by simp)
  obtain ⟨d, hd⟩ := hbytes destination (by simp)
  obtain ⟨o, ho⟩ := hbytes origin (by simp)
  exact ⟨command, destination, origin, c, d, o, hc, hd, ho, rfl⟩

/-- A wrong word count is what reading comes to. -/
theorem readTokens_of_count {token : List Char} {e : FrameError}
    (h : ReadUpTo tokens read (token :: rest)) (hplace : read.length = 3)
    (hcount : readCount token = .error e) : readTokens tokens = .error e := by
  obtain ⟨command, destination, origin, c, d, o, hc, hd, ho, rfl⟩ := exists_three h.bytes hplace
  rw [h.tokens_eq]
  simp only [List.cons_append, List.nil_append, readTokens, readByte_of_hexByte hc,
    readByte_of_hexByte hd, readByte_of_hexByte ho, hcount, bind, Except.bind]

theorem readTokens_of_refuses {e : FrameError} (h : Refuses tokens e) :
    readTokens tokens = .error e.voiced := by
  cases h with
  | headerIncomplete h =>
      match tokens, h with
      | [], _ => rfl
      | [_], _ => rfl
      | [_, _], _ => rfl
      | [_, _, _], _ => rfl
  | @header read rest token field h hfield htoken =>
      obtain ⟨_, _, _, _, _, hfour⟩ := exists_four h.four_le
      have hsplit := h.tokens_eq.symm.trans hfour
      rw [hfour]
      match read, hfield, h.bytes, hsplit with
      | [], hfield, _, hsplit =>
          cases hfield
          cases hsplit
          simp only [readTokens, readByte_of_not htoken, bind, Except.bind]
          rfl
      | [first], hfield, hbytes, hsplit =>
          cases hfield
          obtain ⟨_, hfirst⟩ := hbytes first (by simp)
          cases hsplit
          simp only [readTokens, readByte_of_hexByte hfirst, readByte_of_not htoken, bind, Except.bind]
          rfl
      | [first, second], hfield, hbytes, hsplit =>
          cases hfield
          obtain ⟨_, hfirst⟩ := hbytes first (by simp)
          obtain ⟨_, hsecond⟩ := hbytes second (by simp)
          cases hsplit
          simp only [readTokens, readByte_of_hexByte hfirst, readByte_of_hexByte hsecond,
            readByte_of_not htoken, bind, Except.bind]
          rfl
  | notHexCount h hplace htoken => exact readTokens_of_count h hplace (readCount_of_not htoken)
  | countTooLarge h hplace hn hover => exact readTokens_of_count h hplace (readCount_of_lt hn hover)
  | countNotByte h hplace hn hfits hlength =>
      apply readTokens_of_count h hplace
      rw [readCount_of_le hn hfits, readByte_of_not fun ⟨_, hbyte⟩ => hlength hbyte.length_eq]
      rfl
  | truncated h hplace hcount hshort =>
      obtain ⟨command, destination, origin, c, d, o, hc, hd, ho, rfl⟩ := exists_three h.bytes hplace
      rw [h.tokens_eq]
      simp only [List.cons_append, List.nil_append]
      rw [readTokens_of_header hc hd ho hcount, if_pos hshort]
      rfl
  | @data header before after last token count h hplace hcount hwithin henough htoken =>
      have hheader : ∀ t ∈ header, ∃ b, HexByte t b := fun t ht => h.bytes t (by simp [ht])
      have hbefore : ∀ t ∈ before, ∃ b, HexByte t b := fun t ht => h.bytes t (by simp [ht])
      obtain ⟨command, destination, origin, c, d, o, hc, hd, ho, rfl⟩ := exists_three hheader hplace
      have hdeclared : (before ++ token :: after).take (4 * count.toNat) =
          before ++ token :: after.take (4 * count.toNat - before.length - 1) := by
        obtain ⟨k, hk⟩ := Nat.exists_eq_add_of_lt hwithin
        have htake : before.take (4 * count.toNat) = before := List.take_of_length_le (by omega)
        have hsub : 4 * count.toNat - before.length = k + 1 := by omega
        rw [List.take_append, htake, hsub, List.take_succ_cons]
        rfl
      rw [h.tokens_eq]
      simp only [List.cons_append, List.nil_append]
      rw [readTokens_of_header hc hd ho hcount, if_neg (Nat.not_lt.mpr henough), hdeclared,
        readData_of_not hbefore htoken, Nat.zero_add]
      rfl

/-- A header of bytes is followed by its data, or by too few tokens, or by one that is no byte. -/
theorem carries_or_refuses_data {header : List (List Char)} {count : List Char} {n : UInt8}
    (hheader : ∀ token ∈ header, ∃ b, HexByte token b) (hplace : header.length = 3)
    (hcount : HexByte count n) (rest : List (List Char)) :
    (∃ m, Carries (header ++ count :: rest) m) ∨ ∃ e, Refuses (header ++ count :: rest) e := by
  have hfour : 4 ≤ (header ++ count :: rest).length := by
    rw [List.length_append, List.length_cons]
    omega
  by_cases hshort : rest.length < 4 * n.toNat
  · right
    exact ⟨_, .truncated ⟨rfl, hfour, hheader⟩ hplace hcount hshort⟩
  · have hdeclared := List.take_append_drop (4 * n.toNat) rest
    rcases all_or_first_not (∃ b, HexByte · b) (rest.take (4 * n.toNat)) with
      hall | ⟨before, token, after, hsplit, hbefore, htoken⟩
    · left
      obtain ⟨command, destination, origin, c, d, o, hc, hd, ho, rfl⟩ := exists_three hheader hplace
      obtain ⟨bytes, hbytes⟩ := exists_hexBytes hall
      have hlength : bytes.length = 4 * n.toNat := by
        rw [← hbytes.length_eq, List.length_take]
        omega
      have hbound : bytes.length ≤ 1024 := by
        have hlt := n.toNat_lt
        omega
      have htokens : [command, destination, origin] ++ count :: rest =
          [command, destination, origin, count] ++ rest.take (4 * n.toNat) ++ rest.drop (4 * n.toNat) := by
        rw [List.append_assoc, hdeclared]
        rfl
      exact ⟨_, .intro htokens (.cons hc (.cons hd (.cons ho (.cons hcount .nil)))) hbytes hlength
        (toList_ofList hbound)⟩
    · right
      have hwithin : before.length < 4 * n.toNat := by
        have htake := congrArg List.length hsplit
        rw [List.length_take, List.length_append, List.length_cons] at htake
        omega
      have hrest : rest = before ++ token :: (after ++ rest.drop (4 * n.toNat)) := by
        calc rest = rest.take (4 * n.toNat) ++ rest.drop (4 * n.toNat) := hdeclared.symm
          _ = (before ++ token :: after) ++ rest.drop (4 * n.toNat) := by rw [hsplit]
          _ = before ++ token :: (after ++ rest.drop (4 * n.toNat)) := by simp
      have hread : ReadUpTo (header ++ count :: rest) (header ++ count :: before)
          (token :: (after ++ rest.drop (4 * n.toNat))) := by
        refine ⟨?_, hfour, ?_⟩
        · rw [List.append_assoc, List.cons_append, ← hrest]
        · intro t ht
          rw [List.mem_append, List.mem_cons] at ht
          rcases ht with ht | rfl | ht
          · exact hheader t ht
          · exact ⟨n, hcount⟩
          · exact hbefore t ht
      have henough : 4 * n.toNat ≤ (before ++ token :: (after ++ rest.drop (4 * n.toNat))).length := by
        rw [← hrest]
        exact Nat.not_lt.mp hshort
      exact ⟨_, .data hread hplace hcount hwithin henough htoken⟩

/-- Tokens carry a message or are refused. -/
theorem carries_or_refuses (tokens : List (List Char)) :
    (∃ m, Carries tokens m) ∨ ∃ e, Refuses tokens e := by
  by_cases hfew : tokens.length < 4
  · right
    exact ⟨_, .headerIncomplete hfew⟩
  · have hfour := Nat.not_lt.mp hfew
    obtain ⟨first, second, third, count, others, rfl⟩ := exists_four hfour
    rcases all_or_first_not (∃ b, HexByte · b) [first, second, third] with
      hheader | ⟨before, token, after, hsplit, hbefore, htoken⟩
    · have hread : ReadUpTo (first :: second :: third :: count :: others) [first, second, third]
        (count :: others) := ⟨rfl, hfour, hheader⟩
      by_cases hnumber : ∃ n, Denotes count n
      · obtain ⟨n, hn⟩ := hnumber
        by_cases hover : 1024 < 4 * n
        · right
          exact ⟨_, .countTooLarge hread rfl hn hover⟩
        · by_cases hlength : count.length = 2
          · have hlt : n < 256 := by
              have hpower := hn.lt
              rwa [hlength] at hpower
            have hbyte : HexByte count (UInt8.ofNat n) :=
              ⟨hlength, by rwa [UInt8.toNat_ofNat_of_lt' hlt]⟩
            exact carries_or_refuses_data hheader rfl hbyte others
          · right
            exact ⟨_, .countNotByte hread rfl hn (Nat.not_lt.mp hover) hlength⟩
      · right
        exact ⟨_, .notHexCount hread rfl hnumber⟩
    · right
      have hplace : before.length < [HeaderField.command, .destination, .origin].length := by
        have hlength := congrArg List.length hsplit
        simp only [List.length_append, List.length_cons, List.length_nil] at hlength ⊢
        omega
      have htokens : first :: second :: third :: count :: others =
          before ++ token :: (after ++ count :: others) := by
        have happend := congrArg (· ++ count :: others) hsplit
        simpa using happend
      exact ⟨_, .header ⟨htokens, hfour, hbefore⟩ (List.getElem?_eq_getElem hplace) htoken⟩

theorem readTokens_eq_ok_iff {m : Message} : readTokens tokens = .ok m ↔ Carries tokens m := by
  constructor
  · intro hread
    rcases carries_or_refuses tokens with ⟨m', hcarries⟩ | ⟨e, hrefuses⟩
    · rw [readTokens_of_carries hcarries] at hread
      cases hread
      exact hcarries
    · rw [readTokens_of_refuses hrefuses] at hread
      cases hread
  · exact readTokens_of_carries

theorem readTokens_eq_error_iff {e : FrameError} :
    readTokens tokens = .error e ↔ ∃ reason, Refuses tokens reason ∧ e = reason.voiced := by
  constructor
  · intro hread
    rcases carries_or_refuses tokens with ⟨m, hcarries⟩ | ⟨reason, hrefuses⟩
    · rw [readTokens_of_carries hcarries] at hread
      cases hread
    · rw [readTokens_of_refuses hrefuses] at hread
      cases hread
      exact ⟨reason, hrefuses, rfl⟩
  · rintro ⟨reason, hrefuses, rfl⟩
    exact readTokens_of_refuses hrefuses

/-- Nothing after the declared data matters. -/
theorem Carries.of_take {m : Message} {tokens' : List (List Char)} (h : Carries tokens m)
    (htake : tokens'.take (4 + 4 * m.wordCount.toNat) = tokens.take (4 + 4 * m.wordCount.toNat)) :
    Carries tokens' m := by
  obtain ⟨rfl, hheader, hdata, hlength, hpayload⟩ := h
  rename_i header data rest command destination origin count bytes payload
  have hsize : (header ++ data).length = 4 + 4 * count.toNat := by
    rw [List.length_append, hheader.length_eq, hdata.length_eq, hlength]
    rfl
  simp only [Int.toNat_natCast] at htake
  rw [List.take_left' hsize] at htake
  have htokens := (List.take_append_drop (4 + 4 * count.toNat) tokens').symm
  rw [htake] at htokens
  exact .intro htokens hheader hdata hlength hpayload

end

/-- A line of bytes is within the bound and in the grammar, with the message that it carries. -/
structure Accepts (limit : Int) (bs : List UInt8) (m : Message) : Prop where
  length_le : bs.length ≤ limit
  ascii : ∀ b ∈ bs, b.toNat < 0x80
  carries : Carries (asciiTokens bs) m

/-- Why a line of bytes is rejected: the first thing that is wrong with it. -/
inductive Rejects (limit : Whole) (bs : List UInt8) : FrameError → Prop
  | lineTooLong (h : limit.value < bs.length) : Rejects limit bs (.lineTooLong bs.length limit)
  | notAscii {before after : List UInt8} {b : UInt8} (hlength : bs.length ≤ limit.value)
      (hsplit : bs = before ++ b :: after) (hbefore : ∀ c ∈ before, c.toNat < 0x80)
      (hb : ¬ b.toNat < 0x80) : Rejects limit bs (.notAscii b before.length)
  | tokens {e : FrameError} (hlength : bs.length ≤ limit.value) (hascii : ∀ b ∈ bs, b.toNat < 0x80)
      (h : Refuses (asciiTokens bs) e) : Rejects limit bs e

theorem asciiChars_of_ascii {bs : List UInt8} (position : Nat) (h : ∀ b ∈ bs, b.toNat < 0x80) :
    asciiChars position bs = .ok (bs.map fun b => Char.ofNat b.toNat) := by
  induction bs generalizing position with
  | nil => rfl
  | cons b rest ih =>
      have hrest := ih (position + 1) fun c hc => h c (List.mem_cons_of_mem b hc)
      rw [asciiChars, if_pos (h b List.mem_cons_self), hrest]
      rfl

theorem asciiChars_of_not {before after : List UInt8} {b : UInt8} (position : Nat)
    (hbefore : ∀ c ∈ before, c.toNat < 0x80) (hb : ¬ b.toNat < 0x80) :
    asciiChars position (before ++ b :: after) = .error (.notAscii b (position + before.length)) := by
  induction before generalizing position with
  | nil => exact if_neg hb
  | cons c before ih =>
      have hrest := ih (position + 1) fun d hd => hbefore d (List.mem_cons_of_mem c hd)
      rw [List.cons_append, asciiChars, if_pos (hbefore c List.mem_cons_self), hrest, List.length_cons,
        Nat.add_assoc, Nat.add_comm 1]
      rfl

namespace Codec

variable {codec : Codec} {bs : List UInt8}

theorem accepts_or_rejects (limit : Whole) (bs : List UInt8) :
    (∃ m, Accepts limit.value bs m) ∨ ∃ e, Rejects limit bs e := by
  by_cases hlong : limit.value < bs.length
  · right
    exact ⟨_, .lineTooLong hlong⟩
  · have hlength := Int.not_lt.mp hlong
    rcases all_or_first_not (fun b : UInt8 => b.toNat < 0x80) bs with
      hascii | ⟨before, b, after, hsplit, hbefore, hb⟩
    · rcases carries_or_refuses (asciiTokens bs) with ⟨m, hcarries⟩ | ⟨e, hrefuses⟩
      · left
        exact ⟨m, hlength, hascii, hcarries⟩
      · right
        exact ⟨e, .tokens hlength hascii hrefuses⟩
    · right
      exact ⟨_, .notAscii hlength hsplit hbefore hb⟩

/-- A line within the bound whose characters are known is read by its words. -/
theorem parse_of_chars {line : Line} {cs : List Char} (hlength : line.length ≤ codec.lineLimit.value)
    (hchars : line.chars = .ok cs) : codec.parse line = readTokens (words cs) := by
  have hfits : ¬ codec.lineLimit.value < line.length := Int.not_lt.mpr hlength
  simp only [parse, hfits, ↓reduceIte, hchars, bind, Except.bind]

/-- A line of ASCII within the bound is read by its tokens. -/
theorem parse_of_ascii (hlength : bs.length ≤ codec.lineLimit.value)
    (hascii : ∀ b ∈ bs, b.toNat < 0x80) : codec.parse (.bytes bs) = readTokens (asciiTokens bs) := by
  rw [← words_of_ascii hascii]
  exact parse_of_chars hlength (asciiChars_of_ascii 0 hascii)

theorem parse_of_accepts {m : Message} (h : Accepts codec.lineLimit.value bs m) :
    codec.parse (.bytes bs) = .ok m := by
  rw [parse_of_ascii h.length_le h.ascii]
  exact readTokens_of_carries h.carries

theorem parse_of_rejects {e : FrameError} (h : Rejects codec.lineLimit bs e) :
    codec.parse (.bytes bs) = .error e.voiced := by
  cases h with
  | lineTooLong h =>
      have hlong : codec.lineLimit.value < (Line.bytes bs).length := h
      simp only [parse, hlong, ↓reduceIte, bind, Except.bind]
      rfl
  | @notAscii before after b hlength hsplit hbefore hb =>
      have hfits : ¬ codec.lineLimit.value < (Line.bytes bs).length := Int.not_lt.mpr hlength
      have hchars : (Line.bytes bs).chars = .error (.notAscii b before.length) := by
        rw [hsplit, Line.chars, asciiChars_of_not 0 hbefore hb, Nat.zero_add]
      simp only [parse, hfits, ↓reduceIte, hchars, bind, Except.bind]
      rfl
  | tokens hlength hascii h =>
      rw [parse_of_ascii hlength hascii]
      exact readTokens_of_refuses h

theorem parse_eq_ok_iff {m : Message} :
    codec.parse (.bytes bs) = .ok m ↔ Accepts codec.lineLimit.value bs m := by
  constructor
  · intro hparse
    rcases accepts_or_rejects codec.lineLimit bs with ⟨m', haccepts⟩ | ⟨e, hrejects⟩
    · rw [parse_of_accepts haccepts] at hparse
      cases hparse
      exact haccepts
    · rw [parse_of_rejects hrejects] at hparse
      cases hparse
  · exact parse_of_accepts

theorem parse_eq_error_iff {e : FrameError} :
    codec.parse (.bytes bs) = .error e ↔
      ∃ reason, Rejects codec.lineLimit bs reason ∧ e = reason.voiced := by
  constructor
  · intro hparse
    rcases accepts_or_rejects codec.lineLimit bs with ⟨m, haccepts⟩ | ⟨reason, hrejects⟩
    · rw [parse_of_accepts haccepts] at hparse
      cases hparse
    · rw [parse_of_rejects hrejects] at hparse
      cases hparse
      exact ⟨reason, hrejects, rfl⟩
  · rintro ⟨reason, hrejects, rfl⟩
    exact parse_of_rejects hrejects

/-- Five hexadecimal digits come to no more than seven decimal ones. -/
theorem size_lt {n q : Nat} (hn : n < 16 ^ (5 * q)) : n * wordSize < 10 ^ (7 * q + 1) :=
  calc n * wordSize < 16 ^ (5 * q) * 10 := Nat.mul_lt_mul_of_lt_of_le hn (by decide) (by decide)
    _ = (16 ^ 5) ^ q * 10 := by rw [Nat.pow_mul]
    _ ≤ (10 ^ 7) ^ q * 10 := Nat.mul_le_mul_right 10 (Nat.pow_le_pow_left (by decide) q)
    _ = 10 ^ (7 * q + 1) := by rw [← Nat.pow_mul, Nat.pow_succ]

/-- An excess of few hexadecimal digits comes to a size that can be reported. -/
theorem voiced_countTooLarge {n k q : Nat} (hn : n < 16 ^ k) (hk : k ≤ 5 * q)
    (hq : 7 * q + 1 ≤ Number.digitLimit) :
    FrameError.voiced (.countTooLarge n) = .countTooLarge n := by
  have hfew : n < 16 ^ (5 * q) := Nat.lt_of_lt_of_le hn (Nat.pow_le_pow_right (by decide) hk)
  have hwritable : Number.isWritable ((n * wordSize : Nat) : Int) = true := by
    rw [Number.isWritable_iff, Int.natAbs_natCast]
    unfold Number.unwritable
    -- the power of the limit itself is not to be evaluated
    generalize Number.digitLimit = limit at hq ⊢
    exact Nat.lt_of_lt_of_le (size_lt hfew) (Nat.pow_le_pow_right (by decide) hq)
  rw [FrameError.voiced, FrameError.reporting, if_pos hwritable]

/-- Whatever is wrong with tokens is reported as it is, unless the word count is very long. -/
theorem voiced_of_refuses {tokens : List (List Char)} {e : FrameError} (h : Refuses tokens e)
    (hcount : ∀ token, tokens[3]? = some token → token.length ≤ 3000) : e.voiced = e := by
  cases h with
  | @countTooLarge read rest token n h hplace hn hover =>
      have hthird : tokens[3]? = some token := by
        rw [h.tokens_eq, ← hplace, List.getElem?_append_right (Nat.le_refl _), Nat.sub_self]
        rfl
      have hshort : token.length ≤ 5 * 600 := hcount token hthird
      exact voiced_countTooLarge hn.lt hshort (by decide)
  | _ => rfl

/-- Reading accepts exactly the grammar.  A line of bytes is read as a message when it is within the bound,
all its bytes are ASCII and its tokens carry that message; every other line is rejected, for the first
thing that is wrong with it unless the token of its word count is very long; this can be worded unless it is
a size or a bound with too many digits; and what comes after the declared data matters only for the length of
the line and as ASCII. -/
theorem parse_grammar (codec : Codec) (bs : List UInt8) :
    (∀ m, codec.parse (.bytes bs) = .ok m ↔ Accepts codec.lineLimit.value bs m) ∧
      ((∀ m, ¬ Accepts codec.lineLimit.value bs m) → ∃ e, codec.parse (.bytes bs) = .error e) ∧
      (((∀ b ∈ bs, b.toNat < 0x80) →
          ∀ token, (asciiTokens bs)[3]? = some token → token.length ≤ 3000) →
        ∀ e, codec.parse (.bytes bs) = .error e ↔ Rejects codec.lineLimit bs e) ∧
      (∀ e, codec.parse (.bytes bs) = .error e → (e.isWordable = true ↔ e.isMalformed = true ∧
        (codec.lineLimit.value < bs.length → Number.isWritable codec.lineLimit.value = true))) ∧
      ∀ m bs', codec.parse (.bytes bs) = .ok m → bs'.length ≤ codec.lineLimit.value →
        (∀ b ∈ bs', b.toNat < 0x80) →
        (asciiTokens bs').take (4 + 4 * m.wordCount.toNat) =
          (asciiTokens bs).take (4 + 4 * m.wordCount.toNat) →
        codec.parse (.bytes bs') = .ok m := by
  refine ⟨fun m => parse_eq_ok_iff, ?_, ?_, fun e he => isWordable_iff he, ?_⟩
  · intro hnot
    rcases accepts_or_rejects codec.lineLimit bs with ⟨m, haccepts⟩ | ⟨e, hrejects⟩
    · exact absurd haccepts (hnot m)
    · exact ⟨_, parse_of_rejects hrejects⟩
  · intro hcount
    have hvoiced {e : FrameError} (h : Rejects codec.lineLimit bs e) : e.voiced = e := by
      cases h with
      | lineTooLong _ => rfl
      | notAscii _ _ _ _ => rfl
      | tokens _ hascii h => exact voiced_of_refuses h (hcount hascii)
    intro e
    rw [parse_eq_error_iff]
    constructor
    · rintro ⟨reason, hrejects, rfl⟩
      rwa [hvoiced hrejects]
    · intro hrejects
      exact ⟨e, hrejects, (hvoiced hrejects).symm⟩
  · intro m bs' hparse hlength hascii htake
    rw [parse_eq_ok_iff] at hparse ⊢
    exact ⟨hlength, hascii, hparse.carries.of_take htake⟩

/-- A line with separators and a tab between its tokens, both cases of digits and something after its one
word; and a line whose count the buffer could hold but which is written in three digits. -/
theorem parse_grammar_lenient :
    (∃ m, Accepts defaultLineLimit
        (asciiBytes "07\x1C01 \t02\x1F01\nfF 00 0a Bc and more\r\n".toList) m ∧
      m.command = 7 ∧ m.wordCount = 1) ∧
      Rejects defaultLineLimit (asciiBytes "07 01 02 100".toList)
        (.notHexByte (.header .wordCount) ['1', '0', '0']) := by
  have hlenient := (parse_grammar {} (asciiBytes "07\x1C01 \t02\x1F01\nfF 00 0a Bc and more\r\n".toList)).1
  have hstrict := (parse_grammar {} (asciiBytes "07 01 02 100".toList)).2.2.1
  refine ⟨⟨_, (hlenient _).mp rfl, rfl, rfl⟩, (hstrict ?_ _).mp rfl⟩
  intro _ token htoken
  have hthird : token = ['1', '0', '0'] := (Option.some.inj htoken).symm
  rw [hthird]
  decide

end Codec

end PeripheralLink

import PeripheralLink.Proofs.Message.Body
import PeripheralLink.Proofs.Message.Grammar
/-!
The normal form of a line: the line of the message that it is read as.  Reading is lenient and writing is
not, so that many lines have one normal form.  It consists of the line's own tokens in use, in upper case and
with single spaces between them, and it is read as the very message that the line was read as.

The main statement is `Codec.normalized_spec`.
-/

namespace PeripheralLink

open Text

/-- The tokens of a line that its message makes use of: four of the header, and four for each word. -/
def Message.tokensInUse (m : Message) : Nat := 4 + 4 * m.wordCount.toNat

/-- The line of the message that a line of bytes is read as. -/
def Codec.normalized (codec : Codec) (bs : List UInt8) : Except FrameError (List UInt8) :=
  match codec.parse (.bytes bs) with
  | .ok m => m.lineBytes
  | .error e => .error e

section

variable {tokens : List (List Char)} {bytes : List UInt8}

/-- Tokens of bytes are, in upper case, the ones that are written for them. -/
theorem map_toUpper_of_hexBytes (h : List.Forall₂ HexByte tokens bytes) :
    tokens.map (fun token => token.map Char.toUpper) = bytes.map hexByte := by
  induction h with
  | nil => rfl
  | cons hfirst _ ih => rw [List.map_cons, List.map_cons, hfirst.map_toUpper, ih]

theorem hexBytes_map_hexByte (bytes : List UInt8) : List.Forall₂ HexByte (bytes.map hexByte) bytes := by
  rw [List.forall₂_map_left_iff, List.forall₂_same]
  exact fun b _ => hexByte?_eq_some_iff.mp (hexByte?_hexByte b)

theorem length_of_mem_hexBytes (h : List.Forall₂ HexByte tokens bytes) :
    ∀ token ∈ tokens, token.length = 2 := by
  induction h with
  | nil => simp
  | cons hfirst _ ih => exact List.forall_mem_cons.mpr ⟨hfirst.length_eq, ih⟩

end

namespace Carries

variable {tokens : List (List Char)} {m : Message}

/-- What the tokens in use are, and with what the message is written. -/
theorem inUse (h : Carries tokens m) :
    m.HeaderFits ∧ ∃ bytes, List.Forall₂ HexByte (tokens.take m.tokensInUse) bytes ∧
      m.tokens = bytes.map hexByte ∧ bytes.length = m.tokensInUse ∧ Carries m.tokens m := by
  obtain @⟨header, data, rest, command, destination, origin, count, bytes, payload, rfl, hheader, hdata,
    hlength, hpayload⟩ := h
  have hbyte (b : UInt8) : (0 : Int) ≤ b.toNat ∧ (b.toNat : Int) ≤ 255 := by
    have hlt := b.toNat_lt
    omega
  have hsize : (header ++ data).length = 4 + 4 * count.toNat := by
    rw [List.length_append, hheader.length_eq, hdata.length_eq, hlength]
    rfl
  have hcount : bytes.length = count.toNat * wordSize := by rw [hlength, wordSize, Nat.mul_comm]
  have hwritten : Message.tokens {
      command := command.toNat, destination := destination.toNat, origin := origin.toNat,
      wordCount := count.toNat, payload } = ([command, destination, origin, count] ++ bytes).map hexByte := by
    simp only [Message.tokens, hexField_toNat]
    rw [Message.data_of_wordCount rfl, hpayload, List.take_left' hcount, List.map_append]
    rfl
  refine ⟨Message.headerFits_iff.mpr ⟨hbyte command, hbyte destination, hbyte origin, hbyte count⟩,
    [command, destination, origin, count] ++ bytes, ?_, hwritten, ?_, ?_⟩
  · simp only [Message.tokensInUse, Int.toNat_natCast]
    rw [List.take_left' hsize]
    exact List.rel_append hheader hdata
  · rw [List.length_append, hlength]
    rfl
  · rw [hwritten, List.map_append]
    exact .intro (List.append_nil _).symm (hexBytes_map_hexByte _) (hexBytes_map_hexByte bytes) hlength hpayload

end Carries

namespace Codec

variable {codec : Codec} {bs : List UInt8} {m : Message}

theorem normalized_of_parse (h : codec.parse (.bytes bs) = .ok m) : codec.normalized bs = m.lineBytes := by
  rw [normalized, h]

/-- The line of a message that was read has three bytes for each token in use, and one more.  The line that
it was read from has at most two bytes less: it may do without the line end. -/
theorem lineBytes_of_parse (h : codec.parse (.bytes bs) = .ok m) :
    ∃ out, m.lineBytes = .ok out ∧
      out = asciiBytes (List.intercalate [' ']
        (((asciiTokens bs).take m.tokensInUse).map fun token => token.map Char.toUpper) ++ ['\r', '\n']) ∧
      out.length = 3 * m.tokensInUse + 1 ∧ 3 * m.tokensInUse + 1 ≤ bs.length + 2 := by
  obtain ⟨hfits, bytes, hbytes, hwritten, hcount, -⟩ := (parse_eq_ok_iff.mp h).carries.inUse
  have hheader := Message.headerFits_iff.mp hfits
  refine ⟨_, Message.lineBytes_of_le (by omega), ?_, ?_, ?_⟩
  · rw [map_toUpper_of_hexBytes hbytes, hwritten]
  · have hlength := Message.length_lineBytes hfits
    simp only [Message.tokensInUse]
    omega
  · have hthree : ((asciiTokens bs).take m.tokensInUse).map (fun token => token.length + 1) =
        List.replicate m.tokensInUse 3 := by
      rw [List.eq_replicate_iff]
      refine ⟨by rw [List.length_map, hbytes.length_eq, hcount], ?_⟩
      intro size hsize
      obtain ⟨token, htoken, rfl⟩ := List.mem_map.mp hsize
      rw [length_of_mem_hexBytes hbytes token htoken]
    have hroom := ((List.take_sublist m.tokensInUse (asciiTokens bs)).map fun token => token.length + 1).sum_le_sum
      fun _ _ => Nat.zero_le _
    rw [hthree, List.sum_replicate_nat] at hroom
    have hline := sum_length_asciiTokens_le bs
    omega

/-- The line of a message that was read is read as that message, by every codec with room for it. -/
theorem parse_lineBytes_of_parse (h : codec.parse (.bytes bs) = .ok m) {out : List UInt8}
    (hout : m.lineBytes = .ok out) (wide : Codec) (hroom : out.length ≤ wide.lineLimit.value) :
    wide.parse (.bytes out) = .ok m := by
  obtain ⟨hfits, -, -, -, -, hcarries⟩ := (parse_eq_ok_iff.mp h).carries.inUse
  have hheader := Message.headerFits_iff.mp hfits
  rw [Message.lineBytes_of_le (by omega), Except.ok.injEq] at hout
  subst hout
  rw [wide.parse_intercalate (carried_tokens m), if_neg (Int.not_lt.mpr hroom)]
  exact readTokens_of_carries hcarries

/-- Writing undoes reading.  The normal form of a line that is accepted consists of its tokens in use, in upper
case, with single spaces between them and a line end; it is at most two bytes longer than the line.  Read again
within any bound that has room for it, it gives the very message that the line gives, payload and all, so that
it is its own normal form; and two lines have the same normal form exactly when their messages are equal. -/
theorem normalized_spec (h : codec.parse (.bytes bs) = .ok m) :
    m.tokensInUse ≤ (asciiTokens bs).length ∧ ∃ out, codec.normalized bs = .ok out ∧ m.lineBytes = .ok out ∧
      out = asciiBytes (List.intercalate [' ']
        (((asciiTokens bs).take m.tokensInUse).map fun token => token.map Char.toUpper) ++ ['\r', '\n']) ∧
      out.length = 3 * m.tokensInUse + 1 ∧ out.length ≤ bs.length + 2 ∧
      (∀ wide : Codec, (3 * m.tokensInUse + 1 : Nat) ≤ wide.lineLimit.value →
        wide.parse (.bytes out) = .ok m ∧ wide.normalized out = .ok out) ∧
      ∀ (other : Codec) (bs' : List UInt8) (m' : Message), other.parse (.bytes bs') = .ok m' →
        (other.normalized bs' = codec.normalized bs ↔ m'.same m = true) := by
  obtain ⟨-, bytes, hbytes, -, hcount, -⟩ := (parse_eq_ok_iff.mp h).carries.inUse
  obtain ⟨out, hout, hshape, hlength, hshort⟩ := lineBytes_of_parse h
  have hnormal := normalized_of_parse h
  refine ⟨?_, out, hnormal.trans hout, hout, hshape, hlength, by omega, ?_, ?_⟩
  · rw [← hcount, ← hbytes.length_eq]
    exact List.length_take_le' _ _
  · intro wide hroom
    have hback := parse_lineBytes_of_parse h hout wide (by omega)
    exact ⟨hback, (normalized_of_parse hback).trans hout⟩
  · intro other bs' m' h'
    rw [hnormal, normalized_of_parse h']
    constructor
    · intro hsame
      -- the one line is read as either message
      have hback := parse_lineBytes_of_parse h hout ⟨(out.length : Int)⟩ (Int.le_refl _)
      have hback' := parse_lineBytes_of_parse h' (hsame.trans hout) ⟨(out.length : Int)⟩ (Int.le_refl _)
      rw [hback, Except.ok.injEq] at hback'
      rw [← hback', Message.same_iff]
      exact ⟨rfl, rfl, rfl, rfl, rfl⟩
    · exact Message.lineBytes_of_same

/-- A line with separators and a tab between its tokens, both cases of digits and something after its one word;
and one of the shortest that give the same message, which has no line end. -/
theorem normalized_lenient :
    ∃ m out, Codec.parse {} (.bytes (asciiBytes "07\x1C01 \t02\x1F01\nfF 00 0a Bc and more\r\n".toList)) = .ok m ∧
      m.tokensInUse = 8 ∧ m.lineBytes = .ok out ∧ out = asciiBytes "07 01 02 01 FF 00 0A BC\r\n".toList ∧
      Codec.parse ⟨(25 : Int)⟩ (.bytes out) = .ok m ∧ Codec.normalized ⟨(25 : Int)⟩ out = .ok out ∧
      Codec.normalized ⟨(23 : Int)⟩ (asciiBytes "07 01 02 01 ff 00 0A bc".toList) = .ok out := by
  let m : Message :=
    { command := 7, destination := 1, origin := 2, wordCount := 1, payload := Payload.ofList [255, 0, 10, 188] }
  have hread : Codec.parse {} (.bytes (asciiBytes
      "07\x1C01 \t02\x1F01\nfF 00 0a Bc and more\r\n".toList)) = .ok m := rfl
  have hshort : Codec.parse ⟨(23 : Int)⟩ (.bytes (asciiBytes "07 01 02 01 ff 00 0A bc".toList)) = .ok m := rfl
  obtain ⟨-, out, hnormal, hout, hshape, -, -, hwide, hsame⟩ := normalized_spec hread
  obtain ⟨hback, hagain⟩ := hwide ⟨(25 : Int)⟩ (by decide)
  refine ⟨m, out, hread, rfl, hout, ?_, hback, hagain, ?_⟩
  · rw [hshape]
    rfl
  · rw [(hsame _ _ _ hshort).mpr (Message.same_iff.mpr ⟨rfl, rfl, rfl, rfl, rfl⟩), hnormal]

end Codec

end PeripheralLink

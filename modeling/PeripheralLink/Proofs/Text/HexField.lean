import Mathlib.Tactic.Common
import PeripheralLink.Text.Blank
import PeripheralLink.Text.Digits
/-!
What an integer written in hexadecimal reads back as.  A field has no range, so that its text may carry
a sign or more than two digits; `hexNumber?_hexField` and `hexByte?_hexField` say for which integers the
two readings give the integer back, and that they give nothing for the others.  Fields can be told apart all
the same, as `hexField_injective` says.
-/

namespace PeripheralLink.Text

theorem toUpper_digitChar : ∀ d < 16, (Nat.digitChar d).toUpper = hexDigit d := by decide

def hexDigits (n : Nat) : List Char := (Nat.toDigits 16 n).map Char.toUpper

theorem hexDigits_of_lt {d : Nat} (hd : d < 16) : hexDigits d = [hexDigit d] := by
  simp [hexDigits, Nat.toDigits_of_lt_base hd, toUpper_digitChar d hd]

theorem hexDigits_append {n d : Nat} (hn : 0 < n) (hd : d < 16) :
    hexDigits (16 * n + d) = hexDigits n ++ [hexDigit d] := by
  rw [← hexDigits_of_lt hd, hexDigits, ← Nat.toDigits_append_toDigits (by decide) hn hd,
    List.map_append]
  rfl

theorem mem_hexDigits {n : Nat} {c : Char} (hc : c ∈ hexDigits n) : ∃ d < 16, c = hexDigit d := by
  induction n using Nat.base_induction 16 (by decide) with
  | single d hd =>
      rw [hexDigits_of_lt hd, List.mem_singleton] at hc
      exact ⟨d, hd, hc⟩
  | digit n d hd hn ih =>
      rw [hexDigits_append hn hd, List.mem_append, List.mem_singleton] at hc
      rcases hc with hc | hc
      · exact ih hc
      · exact ⟨d, hd, hc⟩

theorem hexDigits_ne_nil (n : Nat) : hexDigits n ≠ [] := by
  simp [hexDigits]

theorem length_hexDigits_le_two_iff {n : Nat} : (hexDigits n).length ≤ 2 ↔ n < 256 := by
  rw [hexDigits, List.length_map]
  exact Nat.length_toDigits_le_iff (b := 16) (k := 2) (by decide) (by decide)

/-- The digits of a number stand for that number. -/
theorem mapM_hexDigits (n : Nat) :
    ∃ ds, (hexDigits n).mapM hexValue? = some ds ∧ positional 16 ds = n := by
  simp only [positional_eq_foldl]
  induction n using Nat.base_induction 16 (by decide) with
  | single d hd =>
      refine ⟨[d], ?_, by simp⟩
      simp [hexDigits_of_lt hd, hexValue?_hexDigit d hd]
  | digit n d hd hn ih =>
      obtain ⟨ds, hds, hsum⟩ := ih
      refine ⟨ds ++ [d], ?_, ?_⟩
      · simp [hexDigits_append hn hd, hds, hexValue?_hexDigit d hd]
      · rw [List.foldl_append, hsum, Nat.mul_comm]
        rfl

theorem hexDigits_injective : Function.Injective hexDigits := by
  intro n k h
  obtain ⟨ds, hds, hn⟩ := mapM_hexDigits n
  obtain ⟨ds', hds', hk⟩ := mapM_hexDigits k
  rw [h, hds'] at hds
  rw [← hn, ← hk, Option.some.inj hds]

theorem hexField_of_neg {n : Int} (hn : n < 0) : hexField n = '-' :: hexDigits n.natAbs := by
  simp [hexField, hn, hexDigits]

theorem hexField_of_nonneg {n : Int} (hn : 0 ≤ n) :
    hexField n = List.replicate (2 - (hexDigits n.toNat).length) '0' ++ hexDigits n.toNat := by
  have habs : n.natAbs = n.toNat := by omega
  simp [hexField, Int.not_lt.mpr hn, hexDigits, habs]

theorem exists_byte {n : Int} (hn : 0 ≤ n ∧ n ≤ 255) : ∃ b : UInt8, n = b.toNat := by
  refine ⟨UInt8.ofNat n.toNat, ?_⟩
  simp only [UInt8.toNat_ofNat']
  omega

/-- A field that is a byte is written as that byte. -/
theorem hexField_toNat (b : UInt8) : hexField b.toNat = hexByte b := by
  have hall : ∀ m < 256, hexField (m : Nat) = hexByte (UInt8.ofNat m) := by decide +kernel
  have hbyte := hall b.toNat b.toNat_lt
  rwa [UInt8.ofNat_toNat] at hbyte

theorem hexField_ne_nil (n : Int) : hexField n ≠ [] := by
  by_cases hn : n < 0
  · simp [hexField_of_neg hn]
  · simp [hexField_of_nonneg (Int.not_lt.mp hn), hexDigits_ne_nil]

theorem mem_hexField {n : Int} {c : Char} (hc : c ∈ hexField n) :
    c = '-' ∨ ∃ d < 16, c = hexDigit d := by
  by_cases hn : n < 0
  · rw [hexField_of_neg hn, List.mem_cons] at hc
    exact hc.imp_right mem_hexDigits
  · rw [hexField_of_nonneg (Int.not_lt.mp hn), List.mem_append, List.mem_replicate] at hc
    rcases hc with ⟨_, hzero⟩ | hc
    · exact .inr ⟨0, by decide, hzero⟩
    · exact .inr (mem_hexDigits hc)

theorem mapM_replicate_zero (k : Nat) :
    (List.replicate k '0').mapM hexValue? = some (List.replicate k 0) := by
  induction k with
  | zero => rfl
  | succ k ih =>
      have hzero : hexValue? '0' = some 0 := rfl
      simp [List.replicate_succ, ih, hzero]

theorem foldl_replicate_zero (k : Nat) :
    (List.replicate k 0).foldl (fun n d => n * 16 + d) 0 = 0 := by
  induction k with
  | zero => rfl
  | succ k ih => simpa [List.replicate_succ] using ih

/-- A field reads back as a number unless it is negative. -/
theorem hexNumber?_hexField (n : Int) :
    hexNumber? (hexField n) = if 0 ≤ n then some n.toNat else none := by
  by_cases hn : 0 ≤ n
  · obtain ⟨ds, hds, hsum⟩ := mapM_hexDigits n.toNat
    rw [positional_eq_foldl] at hsum
    have hne : (hexField n).isEmpty = false := by simp [hexField_ne_nil]
    rw [hexNumber?, hne, hexField_of_nonneg hn]
    simp [hn, hds, mapM_replicate_zero, positional_eq_foldl, foldl_replicate_zero, hsum]
  · have hminus : hexValue? '-' = none := rfl
    rw [hexField_of_neg (Int.not_le.mp hn)]
    simp [hexNumber?, hn, hminus]

theorem hexByte?_of_length {token : List Char} (hlength : token.length ≠ 2) :
    hexByte? token = none := by
  match token, hlength with
  | [], _ => rfl
  | [_], _ => rfl
  | _ :: _ :: _ :: _, _ => rfl

/-- A field reads back as a byte exactly when it is one. -/
theorem hexByte?_hexField (n : Int) :
    hexByte? (hexField n) = if 0 ≤ n ∧ n ≤ 255 then some (UInt8.ofNat n.toNat) else none := by
  by_cases hbyte : 0 ≤ n ∧ n ≤ 255
  · obtain ⟨b, rfl⟩ := exists_byte hbyte
    rw [if_pos hbyte, hexField_toNat, hexByte?_hexByte, Int.toNat_natCast, UInt8.ofNat_toNat]
  · rw [if_neg hbyte]
    by_cases hn : 0 ≤ n
    · have hlong : ¬ (hexDigits n.toNat).length ≤ 2 := by
        rw [length_hexDigits_le_two_iff]
        omega
      apply hexByte?_of_length
      rw [hexField_of_nonneg hn, List.length_append, List.length_replicate]
      omega
    · have hminus : hexValue? '-' = none := rfl
      rw [hexField_of_neg (Int.not_le.mp hn)]
      match hexDigits n.natAbs with
      | [] => rfl
      | [_] => simp [hexByte?, hminus]
      | _ :: _ :: _ => rfl

/-- Every integer has a field of its own, whatever its sign and the number of its digits. -/
theorem hexField_injective : Function.Injective hexField := by
  intro n k h
  have hnumber := congrArg hexNumber? h
  rw [hexNumber?_hexField, hexNumber?_hexField] at hnumber
  by_cases hn : 0 ≤ n <;> by_cases hk : 0 ≤ k <;> simp only [hn, hk, if_true, if_false] at hnumber
  · have hsame := Option.some.inj hnumber
    omega
  · cases hnumber
  · cases hnumber
  -- negative fields are no numbers to a reader, but their digits are
  · rw [hexField_of_neg (Int.not_le.mp hn), hexField_of_neg (Int.not_le.mp hk)] at h
    have habs := hexDigits_injective (List.cons.inj h).2
    omega

theorem hexByte_injective : Function.Injective hexByte := by
  intro b c h
  have hread := congrArg hexByte? h
  rw [hexByte?_hexByte, hexByte?_hexByte] at hread
  exact Option.some.inj hread

end PeripheralLink.Text

import Mathlib.Data.List.Induction
import PeripheralLink.Proofs.Wire.Readings
/-!
Lines in a stream, however it is cut.  The segments of two parts of a stream are those of the whole when
the unfinished tail of the first part is put in front of the second (`segments_append`), so splitting
as bytes come in and splitting all at once agree.  `framed` writes lines one after the other, and whatever
is a front part of such a stream has a front part of its lines.
-/

namespace PeripheralLink

/-- An unfinished tail has no segments. -/
theorem segments_tail (stream : List UInt8) :
    segments (segments stream).2 = ([], (segments stream).2) := by
  induction stream using List.reverseRecOn with
  | nil => rfl
  | append_singleton stream b ih =>
      rw [segments_concat]
      split
      · rfl
      · rename_i hopen
        rw [segments_concat, ih, if_neg hopen]

theorem segments_append (stream more : List UInt8) :
    segments (stream ++ more) =
      ((segments stream).1 ++ (segments ((segments stream).2 ++ more)).1,
        (segments ((segments stream).2 ++ more)).2) := by
  induction more using List.reverseRecOn with
  | nil => simp [segments_tail]
  | append_singleton more b ih =>
      -- the last byte meets the same tail on both sides
      rw [← List.append_assoc, segments_concat, ih, ← List.append_assoc, segments_concat]
      split <;> simp

theorem segments_prefix {stream whole : List UInt8} (h : stream <+: whole) :
    (segments stream).1 <+: (segments whole).1 := by
  obtain ⟨more, rfl⟩ := h
  rw [segments_append]
  exact List.prefix_append _ _

theorem length_tail_le (stream : List UInt8) : (segments stream).2.length ≤ stream.length := by
  have hjoin := congrArg List.length (segments_join stream)
  rw [List.length_append] at hjoin
  omega

def framed (lines : List (List UInt8)) : List UInt8 := lines.flatMap fun line => line ++ lineEnd

theorem framed_cons (line : List UInt8) (lines : List (List UInt8)) :
    framed (line :: lines) = line ++ lineEnd ++ framed lines := rfl

theorem framed_segments (stream : List UInt8) :
    framed (segments stream).1 ++ (segments stream).2 = stream := segments_join stream

/-- Bytes without a line feed are an unfinished segment. -/
theorem segments_of_not_mem {bytes : List UInt8} (h : 10 ∉ bytes) : segments bytes = ([], bytes) := by
  induction bytes using List.reverseRecOn with
  | nil => rfl
  | append_singleton bytes b ih =>
      simp only [List.mem_append, List.mem_singleton, not_or] at h
      rw [segments_concat, ih h.1, if_neg fun hclose => h.2 hclose.1.symm]

theorem segments_line {line : List UInt8} (h : 10 ∉ line) (rest : List UInt8) :
    segments (line ++ lineEnd ++ rest) = (line :: (segments rest).1, (segments rest).2) := by
  have hopen : (10 : UInt8) ∉ line ++ [13] := by simpa using h
  have hclosed : segments (line ++ lineEnd) = ([line], []) := by
    have hsplit : line ++ lineEnd = (line ++ [13]) ++ [10] := by simp [lineEnd]
    rw [hsplit, segments_concat, segments_of_not_mem hopen]
    simp
  rw [segments_append, hclosed]
  rfl

section
variable {lines : List (List UInt8)} (hlines : ∀ line ∈ lines, 10 ∉ line)
include hlines

theorem segments_framed : segments (framed lines) = (lines, []) := by
  induction lines with
  | nil => rfl
  | cons line lines ih =>
      rw [framed_cons, segments_line (hlines line List.mem_cons_self),
        ih fun l hl => hlines l (List.mem_cons_of_mem line hl)]

/-- What a front part of a framed stream leaves unfinished is shorter than one of its lines. -/
theorem length_tail_of_framed {limit : Int} (hshort : ∀ line ∈ lines, line.length + 2 ≤ limit)
    (hlimit : 0 ≤ limit) {stream : List UInt8} (h : stream <+: framed lines) :
    ((segments stream).2.length : Int) ≤ limit := by
  induction lines generalizing stream with
  | nil =>
      rw [List.prefix_nil.mp h]
      simpa [segments] using hlimit
  | cons line lines ih =>
      have hfits := hshort line List.mem_cons_self
      rw [framed_cons] at h
      rcases List.prefix_or_prefix_of_prefix h (List.prefix_append _ _) with hpart | ⟨rest, rfl⟩
      · have htail := length_tail_le stream
        have hlength := hpart.length_le
        simp only [List.length_append, lineEnd, List.length_cons, List.length_nil] at hlength
        omega
      · rw [segments_line (hlines line List.mem_cons_self)]
        exact ih (fun l hl => hlines l (List.mem_cons_of_mem line hl))
          (fun l hl => hshort l (List.mem_cons_of_mem line hl))
          ((List.prefix_append_right_inj _).mp h)

end

/-- Every segment has taken a line feed. -/
theorem length_segments_le (stream : List UInt8) : (segments stream).1.length ≤ stream.count 10 := by
  have hjoin := congrArg (List.count 10) (framed_segments stream)
  have hlines (lines : List (List UInt8)) : lines.length ≤ (framed lines).count 10 := by
    induction lines with
    | nil => exact Nat.le_refl 0
    | cons line lines ih =>
        have hend : lineEnd.count 10 = 1 := rfl
        rw [framed_cons, List.count_append, List.count_append, hend, List.length_cons]
        omega
  have hsegments := hlines (segments stream).1
  rw [List.count_append] at hjoin
  omega

end PeripheralLink

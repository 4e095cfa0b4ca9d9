import PeripheralLink.Message.Line
/-!
Segments of a byte stream: its parts between line ends, where each line end is the leftmost that is
left.  The main statement is `segments_join`: the segments, a line end after each, and the rest make
up the stream again.
-/

namespace PeripheralLink

/-- The complete segments of a stream, and what follows the last line end. -/
def segments : List UInt8 → List (List UInt8) × List UInt8
  | [] => ([], [])
  | [b] => ([], [b])
  | a :: b :: rest =>
    if a = 13 ∧ b = 10 then
      let (complete, left) := segments rest
      ([] :: complete, left)
    else
      match segments (b :: rest) with
      | ([], left) => ([], a :: left)
      | (first :: complete, left) => ((a :: first) :: complete, left)

/-- Nothing of a stream is lost. -/
theorem segments_join (stream : List UInt8) :
    ((segments stream).1.flatMap fun s => s ++ lineEnd) ++ (segments stream).2 = stream := by
  fun_induction segments stream with
  | case1 => rfl
  | case2 => rfl
  | case3 a b rest hend complete left heq ih =>
      obtain ⟨rfl, rfl⟩ := hend
      simp_all [lineEnd]
  | case4 a b rest hend left heq ih => simp_all
  | case5 a b rest hend first complete left heq ih => simp_all

example : segments [65, 13, 10, 13, 10, 66] = ([[65], []], [66]) := by decide

end PeripheralLink

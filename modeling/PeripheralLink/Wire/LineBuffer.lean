/-!
The receive buffer: a partial line that grows by one byte at a time.  A line that reaches the bound
is given up with one report, and what follows is skipped up to the next line end.
-/

namespace PeripheralLink

/-- A partial line, and whether it is the tail of one that was given up. -/
structure LineBuffer where
  pending : Array UInt8 := #[]
  discarding : Bool := false
deriving DecidableEq

/-- What a byte brings about. -/
inductive LineStep
  | partialLine
  /-- A line is complete; its line end is not part of it. -/
  | complete (line : List UInt8)
  | overflow
  | resumed
deriving DecidableEq

/-- Takes one byte.  The last byte of a line that is given up is kept, because it may be the first
half of the line end. -/
def LineBuffer.push (limit : Int) (buffer : LineBuffer) (b : UInt8) : LineBuffer × LineStep :=
  if b = 10 ∧ buffer.pending.back? = some 13 then
    ({}, if buffer.discarding then .resumed else .complete buffer.pending.pop.toList)
  else
    let grown := buffer.pending.push b
    if limit ≤ grown.size then
      (⟨#[b], true⟩, if buffer.discarding then .partialLine else .overflow)
    else ({ buffer with pending := grown }, .partialLine)

/-- The buffer has neither a partial line nor anything to skip. -/
def LineBuffer.isClear (buffer : LineBuffer) : Bool := buffer.pending.isEmpty && !buffer.discarding

@[simp] theorem LineBuffer.isClear_empty : ({} : LineBuffer).isClear = true := rfl

/-- A byte that is no line feed never ends a line. -/
theorem LineBuffer.push_of_ne_lineFeed (limit : Int) (buffer : LineBuffer) {b : UInt8}
    (hb : b ≠ 10) (line : List UInt8) : (buffer.push limit b).2 ≠ .complete line := by
  simp only [LineBuffer.push, hb, false_and, ↓reduceIte]
  split <;> (try split) <;> simp

example : (({ pending := #[65, 13] } : LineBuffer).push 8 10).2 = .complete [65] := by decide

end PeripheralLink

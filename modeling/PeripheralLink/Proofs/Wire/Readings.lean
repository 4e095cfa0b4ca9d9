import Mathlib.Tactic.Common
import PeripheralLink.Wire.LineBuffer
import PeripheralLink.Wire.Segment
/-!
What the receive buffer makes of a stream.  The buffer takes one byte at a time and forgets the front of
a line that is too long; `readingsOf` says the same from the segments of the whole stream, and does
not run the buffer.  The main statement is `LineBuffer.Holds.absorb`: after any bytes, the buffer has
given the readings of the stream so far.
-/

namespace PeripheralLink

/-- One byte more either closes the unfinished segment or extends it. -/
theorem segments_concat (stream : List UInt8) (b : UInt8) :
    segments (stream ++ [b]) =
      if b = 10 ∧ (segments stream).2.getLast? = some 13 then
        ((segments stream).1 ++ [(segments stream).2.dropLast], [])
      else ((segments stream).1, (segments stream).2 ++ [b]) := by
  fun_induction segments stream with
  | case1 => simp [segments]
  | case2 a => simp [segments, and_comm]
  | case3 a c rest hend complete left heq ih =>
      simp only [List.cons_append, segments, if_pos hend, heq] at ih ⊢
      rw [ih]
      split <;> rfl
  | case4 a c rest hend left heq ih =>
      -- the tail starts before `c`, so it is not empty and closing it keeps `a`
      have hne : left ≠ [] := by
        rintro rfl
        simpa [heq] using segments_join (c :: rest)
      simp only [List.cons_append, segments, if_neg hend, heq] at ih ⊢
      rw [ih, List.getLast?_cons_of_ne_nil hne, List.dropLast_cons_of_ne_nil hne]
      by_cases hclose : b = 10 ∧ left.getLast? = some 13 <;> simp [hclose]
  | case5 a c rest hend first complete left heq ih =>
      simp only [List.cons_append, segments, if_neg hend, heq] at ih ⊢
      rw [ih]
      by_cases hclose : b = 10 ∧ left.getLast? = some 13 <;> simp [hclose]

/-- What a reader of lines is given: a line, or that one was too long. -/
inductive Reading
  | line (bytes : List UInt8)
  | overflow
deriving DecidableEq

def Reading.line? : Reading → Option (List UInt8)
  | line bytes => some bytes
  | overflow => none

/-- A segment is read as a line as long as it fits into the bound together with its line end. -/
def Reading.ofSegment (limit : Int) (segment : List UInt8) : Reading :=
  if segment.length + 2 ≤ limit then .line segment else .overflow

/-- The readings of a stream: one for each segment, and one for the unfinished tail as soon as it
reaches the bound. -/
def readingsOf (limit : Int) (stream : List UInt8) : List Reading :=
  (segments stream).1.map (.ofSegment limit) ++
    if limit ≤ (segments stream).2.length then [.overflow] else []

theorem readingsOf_nil {limit : Int} (hlimit : 0 < limit) : readingsOf limit [] = [] := by
  simp [readingsOf, segments, Int.not_le.mpr hlimit]

/-- The lines among the readings are the segments that fit. -/
theorem lines_readingsOf (limit : Int) (stream : List UInt8) :
    (readingsOf limit stream).filterMap Reading.line? =
      (segments stream).1.filter fun s => s.length + 2 ≤ limit := by
  have hline : Reading.line? ∘ Reading.ofSegment limit =
      Option.guard fun s => s.length + 2 ≤ limit := by
    funext s
    by_cases hfits : (s.length : Int) + 2 ≤ limit <;>
      simp [Reading.ofSegment, Reading.line?, Option.guard, hfits]
  rw [readingsOf, List.filterMap_append, List.filterMap_map, hline, List.filterMap_eq_filter]
  split <;> simp [Reading.line?]

/-- Where all readings are lines, they are the segments of the stream. -/
theorem segments_of_readingsOf {limit : Int} {stream : List UInt8} {lines : List (List UInt8)}
    (h : readingsOf limit stream = lines.map .line) : (segments stream).1 = lines := by
  have hlines : lines = (segments stream).1.filter fun s => s.length + 2 ≤ limit := by
    rw [← lines_readingsOf, h, List.filterMap_map]
    exact (List.filterMap_some).symm
  have hlength : (segments stream).1.length ≤ lines.length := by
    have hreadings := congrArg List.length h
    rw [readingsOf, List.length_append, List.length_map, List.length_map] at hreadings
    omega
  rw [hlines] at hlength ⊢
  exact ((List.filter_sublist).eq_of_length_le hlength).symm

/-- What a step of the buffer gives its reader. -/
def LineStep.readings : LineStep → List Reading
  | partialLine => []
  | complete line => [.line line]
  | overflow => [.overflow]
  | resumed => []

namespace LineBuffer

/-- Takes bytes one after the other, collecting what they give. -/
def absorb (limit : Int) : LineBuffer → List UInt8 → LineBuffer × List Reading
  | buffer, [] => (buffer, [])
  | buffer, b :: bytes =>
    let (buffer, step) := buffer.push limit b
    let (buffer, readings) := absorb limit buffer bytes
    (buffer, step.readings ++ readings)

inductive Holds (limit : Int) : LineBuffer → List UInt8 → Prop
  | whole {tail : List UInt8} (hshort : tail.length < limit) : Holds limit ⟨tail.toArray, false⟩ tail
  /-- Once the tail has reached the bound, only its last byte counts. -/
  | skipped {pending : Array UInt8} {tail : List UInt8} (hlong : limit ≤ tail.length)
      (hlast : pending.back? = tail.getLast?) : Holds limit ⟨pending, true⟩ tail

variable {limit : Int} {buffer : LineBuffer} {stream tail : List UInt8}

theorem Holds.empty (hlimit : 0 < limit) : Holds limit {} [] := .whole hlimit

theorem Holds.back?_eq (h : Holds limit buffer tail) :
    buffer.pending.back? = tail.getLast? := by
  cases h with
  | whole _ => simp
  | skipped _ hlast => exact hlast

/-- A line end gives the line, or ends the skipping of one that was too long. -/
theorem Holds.push_lineFeed (h : Holds limit buffer tail) (hend : tail.getLast? = some 13) :
    buffer.push limit 10 =
      ({}, if limit ≤ tail.length then .resumed else .complete tail.dropLast) := by
  have hback := h.back?_eq.trans hend
  simp only [LineBuffer.push, hback, and_self, ↓reduceIte]
  cases h with
  | whole hshort => simp [Int.not_le.mpr hshort]
  | skipped hlong _ => simp [hlong]

/-- Any other byte extends the tail, and is reported when the tail has just reached the bound. -/
theorem Holds.push_of_open (h : Holds limit buffer tail) {b : UInt8}
    (hopen : ¬ (b = 10 ∧ tail.getLast? = some 13)) :
    Holds limit (buffer.push limit b).1 (tail ++ [b]) ∧
      (buffer.push limit b).2 = if limit = tail.length + 1 then .overflow else .partialLine := by
  rw [LineBuffer.push, h.back?_eq, if_neg hopen]
  cases h with
  | whole hshort =>
      by_cases hfull : limit = tail.length + 1
      · simpa [hfull] using Holds.skipped (by simp) (by simp)
      · have hroom : ¬ limit ≤ tail.length + 1 := by omega
        have hnext : Holds limit ⟨(tail ++ [b]).toArray, false⟩ (tail ++ [b]) :=
          .whole (by simp; omega)
        simpa [hfull, hroom] using hnext
  | @skipped pending _ hlong _ =>
      have hlonger : limit ≤ (tail ++ [b]).length := by simp; omega
      have hpast : limit ≠ tail.length + 1 := by omega
      by_cases hkept : limit ≤ (pending.push b).size
      · simpa only [hkept, hpast, ↓reduceIte, and_true] using Holds.skipped hlonger (by simp)
      · simpa only [hkept, hpast, ↓reduceIte, and_true] using Holds.skipped hlonger (by simp)

/-- One byte keeps the buffer in step with the stream, and gives what the byte adds to its readings. -/
theorem Holds.push (hlimit : 0 < limit) (h : Holds limit buffer (segments stream).2) (b : UInt8) :
    Holds limit (buffer.push limit b).1 (segments (stream ++ [b])).2 ∧
      readingsOf limit (stream ++ [b]) =
        readingsOf limit stream ++ (buffer.push limit b).2.readings := by
  unfold readingsOf
  rw [segments_concat]
  by_cases hclose : b = 10 ∧ (segments stream).2.getLast? = some 13
  · obtain ⟨rfl, hlast⟩ := hclose
    have hpos : 0 < (segments stream).2.length :=
      List.length_pos_iff.mpr (List.getLast?_isSome.mp (by simp [hlast]))
    rw [h.push_lineFeed hlast]
    refine ⟨by simpa [hlast] using Holds.empty hlimit, ?_⟩
    by_cases hlong : limit ≤ (segments stream).2.length
    · have htoo : ¬ ((segments stream).2.length - 1 : Nat) + 2 ≤ limit := by omega
      simp [hlast, hlong, htoo, Reading.ofSegment, LineStep.readings, hlimit]
    · have hfits : ((segments stream).2.length - 1 : Nat) + 2 ≤ limit := by omega
      simp [hlast, hlong, hfits, Reading.ofSegment, LineStep.readings, hlimit]
  · obtain ⟨hnext, hstep⟩ := h.push_of_open hclose
    rw [if_neg hclose, hstep]
    refine ⟨hnext, ?_⟩
    by_cases hfull : limit = (segments stream).2.length + 1
    · have hshort : ¬ limit ≤ (segments stream).2.length := by omega
      rw [if_neg hshort, if_pos (by simp [hfull]), if_pos hfull]
      simp [LineStep.readings]
    · by_cases hlong : limit ≤ (segments stream).2.length
      · have hlonger : limit ≤ (segments stream).2.length + 1 := by omega
        simp [hfull, hlong, hlonger, LineStep.readings]
      · have hroom : ¬ limit ≤ (segments stream).2.length + 1 := by omega
        simp [hfull, hlong, hroom, LineStep.readings]

/-- Any bytes keep the buffer in step with the stream, and give what they add to its readings. -/
theorem Holds.absorb (hlimit : 0 < limit) (h : Holds limit buffer (segments stream).2)
    (bytes : List UInt8) :
    Holds limit (buffer.absorb limit bytes).1 (segments (stream ++ bytes)).2 ∧
      readingsOf limit (stream ++ bytes) =
        readingsOf limit stream ++ (buffer.absorb limit bytes).2 := by
  induction bytes generalizing buffer stream with
  | nil => simpa [LineBuffer.absorb] using h
  | cons b bytes ih =>
      obtain ⟨hstep, hreadings⟩ := h.push hlimit b
      obtain ⟨hrest, hmore⟩ := ih hstep
      rw [List.append_assoc] at hrest hmore
      refine ⟨hrest, hmore.trans ?_⟩
      rw [hreadings, List.append_assoc]
      rfl

end LineBuffer

end PeripheralLink

/-!
An action that is due at most once in an interval, and keeping a value within bounds.
-/

namespace PeripheralLink

variable {τ : Type} [Sub τ] [LE τ] [DecidableLE τ] [LT τ] [DecidableLT τ]

/-- An interval and the time it was last begun. -/
structure IntervalClock (τ : Type) where
  interval : τ
  begunAt : τ

def IntervalClock.mark (c : IntervalClock τ) (now : τ) : IntervalClock τ := { c with begunAt := now }

def IntervalClock.isDue (c : IntervalClock τ) (now : τ) : Bool := c.interval ≤ now - c.begunAt

/-- The value within bounds.  The lower bound wins over the upper one, and each bound over a value
that it cannot be compared with. -/
def clamp (value low high : τ) : τ :=
  let capped := if value < high then value else high
  if low < capped then capped else low

end PeripheralLink

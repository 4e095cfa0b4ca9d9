/-!
Delays between attempts to reconnect.  The delay starts at an initial value and is multiplied after
each failure up to a cap; a success makes it the initial value again.  The time scale is a
parameter, so that the same rules run on doubles and can be reasoned about with exact numbers.
-/

namespace PeripheralLink

variable {τ : Type}

/-- A reconnect delay and how it grows. -/
structure Backoff (τ : Type) where
  initial : τ
  multiplier : τ
  cap : τ
  delay : τ

def Backoff.start (initial multiplier cap : τ) : Backoff τ := ⟨initial, multiplier, cap, initial⟩

/-- The delay after one more failure: the cap where it is less than the product. -/
def Backoff.advance [Mul τ] [LT τ] [DecidableLT τ] (b : Backoff τ) : Backoff τ :=
  let next := b.delay * b.multiplier
  { b with delay := if b.cap < next then b.cap else next }

def Backoff.reset (b : Backoff τ) : Backoff τ := { b with delay := b.initial }

/-- One second, doubling up to thirty. -/
def Backoff.standard : Backoff Float := .start 1.0 2.0 30.0

@[simp] theorem Backoff.reset_delay (b : Backoff τ) : b.reset.delay = b.initial := rfl

@[simp] theorem Backoff.advance_initial [Mul τ] [LT τ] [DecidableLT τ] (b : Backoff τ) :
    b.advance.initial = b.initial := rfl

end PeripheralLink

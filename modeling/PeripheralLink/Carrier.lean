import PeripheralLink.Journal
/-!
The outside that a link works with: transports that are built, connected, probed, used and
disconnected, and a clock.  A transport is known by its number.
-/

namespace PeripheralLink

structure TransportLimits (τ : Type) where
  connectTimeout : τ
  ioTimeout : τ
  lineLimit : Whole

/-- An outside `σ` that keeps time in `τ`. -/
class Carrier (σ : Type) (τ : outParam Type) where
  now : σ → τ
  wait : σ → τ → σ
  build : σ → TransportLimits τ → Target → Except Fault Nat × σ
  /-- What happens of connecting before other calls may come in. -/
  approach : σ → Nat → σ
  /-- The rest of connecting: whether the transport is up. -/
  connect : σ → Nat → Except Fault Bool × σ
  disconnect : σ → Nat → σ
  probe : σ → Nat → Bool × σ
  send : σ → Nat → List UInt8 → Bool × σ
  receive : σ → Nat → Option (List UInt8) × σ
  exchange : σ → Nat → List UInt8 → Except Fault (Option (List UInt8)) × σ
  /-- Takes the journal of the calls made so far. -/
  drain : σ → List (OutsideEntry τ) × σ

end PeripheralLink

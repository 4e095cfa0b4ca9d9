import PeripheralLink.Link.Phase
import PeripheralLink.Message.Line
import PeripheralLink.Target
import PeripheralLink.Log
import PeripheralLink.Value.Json
/-!
What a link counts and what it reports.
-/

namespace PeripheralLink

/-- What a link has counted since it was made. -/
structure Counters where
  sent : Nat := 0
  received : Nat := 0
  failed : Nat := 0
  attempts : Nat := 0
  reconnects : Nat := 0
deriving DecidableEq

/-- A link's statistics at one moment. -/
structure LinkStats (τ : Type) where
  phase : Phase
  enabled : Bool
  target : Target
  counters : Counters
  delay : τ

inductive LinkNotice (τ : Type)
  | initialized (target : Target)
  | targetSet (target : Target)
  | targetRefused (target : Target)
  | enableRefused (target : Target)
  | moved (old next : Phase)
  | reentered (phase : Phase) (delay : τ)
  | connectionLost
  | stale (target : Target)
  | unreachable (target : Target)
  | attemptFailed (count : Nat) (target : Target)
  | retryIn (delay : τ)
  | status (stats : LinkStats τ)
  | shutDown (counters : Counters)
  | notEncoded (reason : FrameError)
  | notSent (m : Message)
  | frameDropped (reason : FrameError)

def LinkStats.record (s : LinkStats Float) : Value :=
  .record [("event", .text "vmu_link_status"), ("state", .text s.phase.label),
    ("enabled", .bool s.enabled), ("target", .text s.target.inline),
    ("messages_sent", .int s.counters.sent), ("messages_received", .int s.counters.received),
    ("messages_failed", .int s.counters.failed), ("connect_attempts", .int s.counters.attempts),
    ("reconnects", .int s.counters.reconnects), ("backoff_s", .float s.delay)]

private def seconds (delay : Float) : String := Number.fixed 0 delay ++ "s"

def LinkNotice.entry : LinkNotice Float → LogEntry
  | initialized target => ⟨.info, .manager, "ConnectionManager initialized for " ++ target.inline⟩
  | targetSet target => ⟨.info, .manager, "Companion target set to " ++ target.inline⟩
  | targetRefused target =>
    ⟨.error, .manager, "Invalid companion target " ++ target.shown ++ ", link stays disabled"⟩
  | enableRefused target =>
    ⟨.error, .manager, "Cannot enable: invalid companion target " ++ target.shown⟩
  | moved old next => ⟨.info, .manager, "Link state: " ++ old.name ++ " -> " ++ next.name⟩
  | reentered phase delay =>
    ⟨.debug, .manager, "Re-entered " ++ phase.name ++ " (backoff=" ++ seconds delay ++ ")"⟩
  | connectionLost => ⟨.warning, .manager, "Health check failed, connection lost"⟩
  | stale target =>
    ⟨.info, .manager, "Discarding connection to " ++ target.inline ++ " made stale during connect"⟩
  | unreachable target =>
    ⟨.warning, .manager, "Companion not reachable at " ++ target.inline ++ ", will retry with backoff"⟩
  | attemptFailed count target =>
    ⟨.debug, .manager, "Connect attempt " ++ Number.integer count ++ " to " ++ target.inline ++ " failed"⟩
  | retryIn delay => ⟨.debug, .manager, "Reconnect failed, next attempt in " ++ seconds delay⟩
  | status stats => ⟨.info, .manager, stats.record.json⟩
  | shutDown counters =>
    ⟨.info, .manager, "ConnectionManager shut down (sent=" ++ Number.integer counters.sent ++
      ", received=" ++ Number.integer counters.received ++ ", failed=" ++
      Number.integer counters.failed ++ ")"⟩
  | notEncoded reason => ⟨.warning, .manager, "Cannot encode message: " ++ reason.message⟩
  | notSent m => ⟨.debug, .manager, "Send failed: " ++ m.shown⟩
  | frameDropped reason => ⟨.warning, .framing, "Dropping malformed frame: " ++ reason.message⟩

end PeripheralLink

import PeripheralLink.Link.Notice
import PeripheralLink.Notify.Sink
import PeripheralLink.Wire.Network
import PeripheralLink.Message.Basic
/-!
The journal of a run: calls on the outside, notifications handed over and reports, in the order they
happened, and the records of the steps that were taken.
-/

namespace PeripheralLink

inductive TransportCall
  | build (target : Target)
  | connect (transport : Nat)
  | disconnect (transport : Nat)
  | probe (transport : Nat)
  | send (transport : Nat) (bytes : List UInt8)
  | receive (transport : Nat)
  | exchange (transport : Nat) (bytes : List UInt8)

inductive BenchCall
  | start (target : Target)
  | stop
  | connect (transport : Nat) (up : Bool)
  | exchange (transport : Nat) (line : List UInt8)
  | listConnections (method kind : String)

inductive BridgeNotice
  | initialized (target : Target)
  | ignored
  | shutDown
  | signalled (signal : Value)
  | fatal (reason : String)

def BridgeNotice.entry : BridgeNotice → LogEntry
  | initialized target =>
    ⟨.info, .bridge, "VmuNetworkBridge initialized (target=" ++ target.inline ++ ")"⟩
  | ignored => ⟨.warning, .bridge, "set_enabled() called before initialize(), ignoring"⟩
  | shutDown => ⟨.info, .bridge, "VmuNetworkBridge shut down"⟩
  | signalled signal =>
    ⟨.info, .bridge, "Received signal " ++ signal.inline ++ ", shutting down..."⟩
  | fatal reason => ⟨.critical, .bridge, "Fatal error: " ++ reason⟩

inductive Report (τ : Type)
  | wire (notice : TransportNotice)
  | link (notice : LinkNotice τ)
  | sink (notice : SinkNotice)
  | bridge (notice : BridgeNotice)

def Report.entry : Report Float → LogEntry
  | wire notice => notice.entry
  | link notice => notice.entry
  | sink notice => notice.entry
  | bridge notice => notice.entry

inductive Answer (τ : Type)
  | nothing
  | flag (b : Bool)
  | phase (p : Phase)
  | stats (s : Option (LinkStats τ))
  | reply (m : Option Message)
  /-- The ticks after which the phase was another one, with that phase. -/
  | changes (ticks : List (Nat × Phase))
  | fault (f : Fault)
  | refused (e : MessageError)

structure LinkView (τ : Type) where
  stats : LinkStats τ
  timeInPhase : τ

/-- What an outside enters into the journal. -/
inductive OutsideEntry (τ : Type)
  | wire (entry : WireEntry τ)
  | transport (call : TransportCall)
  | bench (call : BenchCall)

mutual

inductive Entry (τ : Type)
  | socket (call : SocketCall τ)
  | transport (call : TransportCall)
  | client (call : ClientCall)
  | bench (call : BenchCall)
  | printed (text : String)
  | notified (n : Notification)
  | report (r : Report τ)
  | during (steps : List (StepRecord τ))

/-- The record of a step: what it answers, the link after it, and the journal of it. -/
inductive StepRecord (τ : Type)
  | mk (answer : Answer τ) (view : Option (LinkView τ)) (entries : List (Entry τ))

end

def WireEntry.entry {τ : Type} : WireEntry τ → Entry τ
  | call c => .socket c
  | notice n => .report (.wire n)

def OutsideEntry.entry {τ : Type} : OutsideEntry τ → Entry τ
  | wire e => e.entry
  | transport c => .transport c
  | bench c => .bench c

end PeripheralLink

import PeripheralLink.Message.Basic
import PeripheralLink.Wire.Socket
import PeripheralLink.Link.Phase
import PeripheralLink.Target
import PeripheralLink.Fault
/-!
The steps of a scenario: calls on a link, a bridge or a sink, the passing of time, and changes of how the
outside behaves.  Such a change may leave steps to be taken at the next moment that lets other calls
in.
-/

namespace PeripheralLink

/-- How scripted transports, and the callback sink, are to behave from now on; what is absent stays. -/
structure Behaviour where
  reachable : Option Bool := none
  alive : Option Bool := none
  passable : Option Bool := none
  connectFault : Option (Option String) := none
  buildFault : Option (Option String) := none
  callbackFault : Option (Option String) := none
  replies : List (List UInt8) := []

/-- How the newest client of the backend is to behave from now on. -/
structure ClientBehaviour where
  connected : Option Bool := none
  connectFault : Option (Option Fault) := none
  emitFault : Option (Option Fault) := none

inductive Step (τ : Type)
  | setEnabled (on : Bool)
  | configure (target : Target)
  | retarget (target : Target)
  | update
  | tick (time : τ)
  | ticks (time : τ) (count : Nat)
  | advance (time : τ)
  | send (m : Message)
  | receive
  | request (m : Message)
  | stats
  | phase
  | isConnected
  | isEnabled
  | shutDown
  | enter
  | leave
  | openBridge (host port : Option Value)
  | closeBridge
  | tell (e : Edge)
  | notify (n : Notification)
  | connectSink
  | closeSink
  | sockets (coming : List (Socket τ))
  /-- Arrivals are added at the socket of a number; a negative number counts back from the newest. -/
  | feed (socket : Int) (arrivals : List (Arrival τ))
  | client (change : ClientBehaviour)
  /-- New behaviour, with the steps to be taken within the next connect and the next callback. -/
  | behave (change : Behaviour) (onConnect onNotify : Option (List (Step τ)))
  | refused (e : MessageError)
  | impossible (f : Fault)
deriving Inhabited

mutual

/-- Lists of steps that a step leaves for later, those within them included. -/
def Step.deferred {τ : Type} : Step τ → Nat
  | .behave _ onConnect onNotify => deferredIn onConnect + deferredIn onNotify
  | _ => 0

/-- Lists of steps in one that may be left for later, itself included. -/
def deferredIn {τ : Type} : Option (List (Step τ)) → Nat
  | none => 0
  | some steps => deferredSteps steps + 1

/-- Lists of steps that any of the steps leaves for later. -/
def deferredSteps {τ : Type} : List (Step τ) → Nat
  | [] => 0
  | step :: rest => step.deferred + deferredSteps rest

end

end PeripheralLink

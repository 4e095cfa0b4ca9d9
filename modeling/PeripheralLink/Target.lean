import PeripheralLink.Value
import PeripheralLink.Text.Blank
/-!
Where the companion listens.  A target may be set to anything; only a valid one is connected to.
-/

namespace PeripheralLink

/-- A host and a port as they were given. -/
structure Target where
  host : Value
  port : Value

namespace Target

def standard : Target := ⟨.text "127.0.0.1", .int 37393⟩

/-- The host is a text with a character that is not blank. -/
def hasHost (t : Target) : Bool :=
  match t.host with
  | .text host => host.toList.any fun c => !Text.isBlank c
  | _ => false

/-- The port is a whole number that a port can have. -/
def hasPort (t : Target) : Bool :=
  match t.port.int? with
  | some port => 0 < port ∧ port < 65536
  | none => false

/-- The target can be connected to. -/
def isValid (t : Target) : Bool := t.hasHost && t.hasPort

def inline (t : Target) : String := t.host.inline ++ ":" ++ t.port.inline

/-- Host and port as a report on a bad target shows them. -/
def shown (t : Target) : String := t.host.shown ++ ":" ++ t.port.shown

/-- The same host and the same port. -/
def same (a b : Target) : Bool := a.host.same b.host && a.port.same b.port

end Target

end PeripheralLink

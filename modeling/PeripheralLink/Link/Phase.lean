import PeripheralLink.Value
/-!
The phases of a link, and the edges of the connected phase that are told to a user.
-/

namespace PeripheralLink

/-- Where a link stands. -/
inductive Phase
  | disabled
  | disconnected
  | connecting
  | connected
  | reconnecting
deriving DecidableEq

def Phase.label : Phase → String
  | disabled => "disabled"
  | disconnected => "disconnected"
  | connecting => "connecting"
  | connected => "connected"
  | reconnecting => "reconnecting"

def Phase.name : Phase → String
  | disabled => "DISABLED"
  | disconnected => "DISCONNECTED"
  | connecting => "CONNECTING"
  | connected => "CONNECTED"
  | reconnecting => "RECONNECTING"

/-- An entry into the connected phase, or a loss of the connection. -/
inductive Edge
  | connected
  | disconnected
  | reconnected
deriving DecidableEq

structure Notification where
  message : String
  /-- How long it is shown, in display frames. -/
  duration : Value

def Edge.notification : Edge → Notification
  | connected => ⟨"Network VMU connected", .int 180⟩
  | disconnected => ⟨"Network VMU disconnected - retrying", .int 120⟩
  | reconnected => ⟨"Network VMU reconnected", .int 120⟩

end PeripheralLink

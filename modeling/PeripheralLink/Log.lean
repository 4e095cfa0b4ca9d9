/-!
Log levels, the channels that components report on, and log entries.
-/

namespace PeripheralLink

inductive Level
  | debug
  | info
  | warning
  | error
  | critical
deriving DecidableEq

/-- The number a threshold compares. -/
def Level.severity : Level → Int
  | debug => 10
  | info => 20
  | warning => 30
  | error => 40
  | critical => 50

def Level.name : Level → String
  | debug => "DEBUG"
  | info => "INFO"
  | warning => "WARNING"
  | error => "ERROR"
  | critical => "CRITICAL"

inductive Channel
  | framing
  | transport
  | manager
  | notifications
  | bridge
  | settings
  | companion
deriving DecidableEq

def Channel.name : Channel → String
  | framing => "vmu_link.framing"
  | transport => "vmu_link.transport"
  | manager => "vmu_link.connection_manager"
  | notifications => "vmu_link.notifications"
  | bridge => "vmu_link.bridge"
  | settings => "vmu_link.config"
  | companion => "companion_sim"

structure LogEntry where
  level : Level
  channel : Channel
  text : String
deriving DecidableEq

end PeripheralLink

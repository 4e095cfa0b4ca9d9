import PeripheralLink.Link.Phase
import PeripheralLink.Fault
import PeripheralLink.Log
import PeripheralLink.Number.Notation
/-!
Where notifications go: the log, a callback, or a backend that is told over a client of its own.
-/

namespace PeripheralLink

/-- A client of the notification backend, with the failures of its calls. -/
structure Client where
  connected : Bool := false
  connectFault : Option Fault := none
  emitFault : Option Fault := none
deriving DecidableEq

inductive ClientCall
  | create (reconnection : Bool) (delay : Int)
  | connect (url : String) (timeout : Int)
  | emit (event : String) (n : Notification)
  | disconnect

/-- The event that carries a notification to the backend. -/
def notificationEvent : String := "vmu_notification"

/-- A receiver of notifications. -/
inductive Sink
  | log
  | callback
  /-- One that does not implement the operation. -/
  | bare
  | backend (url : String) (client : Nat)
deriving DecidableEq

/-- A report of a sink, or on one. -/
inductive SinkNotice
  | initialized (url : String)
  | connecting (url : String)
  | connectFailed (reason : String)
  | logOnly
  | shown (n : Notification)
  | shownOffline (n : Notification)
  | emitFailed (reason : String)
  | sinkFailed (reason : String)

def SinkNotice.entry (notice : SinkNotice) : LogEntry :=
  let (level, text) := match notice with
    | initialized url => (Level.info, "SocketIONotificationSink initialized (url=" ++ url ++ ")")
    | connecting url => (.info, "Connecting to notification backend at " ++ url)
    | connectFailed reason => (.error, "Failed to connect to notification backend: " ++ reason)
    | logOnly => (.warning, "Notifications will be logged only")
    | shown n =>
      (.info, "[notify] " ++ n.message ++ " (duration=" ++ n.duration.inline ++ ")")
    | shownOffline n =>
      (.info, "[notify] " ++ n.message ++ " (duration=" ++ n.duration.inline ++
        ", backend offline)")
    | emitFailed reason => (.error, "Failed to emit notification: " ++ reason)
    | sinkFailed reason => (.error, "Notification sink failed: " ++ reason)
  ⟨level, .notifications, text⟩

end PeripheralLink

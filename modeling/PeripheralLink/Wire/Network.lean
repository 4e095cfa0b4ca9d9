import PeripheralLink.Wire.Socket
import PeripheralLink.Target
import PeripheralLink.Log
/-!
The network as the link meets it: a clock, the sockets opened so far, the schedules of those to
come, and a journal of calls and reports.  A call is entered before it fails.
-/

namespace PeripheralLink

inductive SocketCall (τ : Type)
  | create (socket : Nat)
  | setTimeout (socket : Nat) (time : τ)
  | connect (socket : Nat) (target : Target)
  | setOption (socket : Nat) (option : SocketOption) (value : Int)
  | setBlocking (socket : Nat) (on : Bool)
  | bind (socket : Nat) (target : Target)
  | listen (socket : Nat) (backlog : Value)
  | send (socket : Nat) (bytes : List UInt8)
  | close (socket : Nat)

inductive TransportNotice
  | connectFailed (target : Target) (reason : String)
  | connected (target : Target)
  | disconnected (target : Target)
  | closeFailed (reason : String)
  | keepAliveUnsupported
  | probeFailed (reason : String)
  | probeClosed
  | sendExpired (sent total : Nat)
  | sendFailed (reason : String)
  | sendClosed
  | receiveFailed (reason : String)
  | receiveClosed
  | lineOverflow (limit : Whole)
  | listening (host port : Value)

def TransportNotice.entry (n : TransportNotice) : LogEntry :=
  let (level, text) := match n with
    | connectFailed target reason =>
      (Level.debug, "Connect to " ++ target.inline ++ " failed: " ++ reason)
    | connected target => (.info, "Connected to companion at " ++ target.inline)
    | disconnected target => (.info, "Disconnected from companion at " ++ target.inline)
    | closeFailed reason => (.debug, "Error closing socket: " ++ reason)
    | keepAliveUnsupported =>
      (.debug, "TCP keepalive detailed configuration not supported on this platform")
    | probeFailed reason => (.warning, "Liveness check failed: " ++ reason)
    | probeClosed => (.warning, "Liveness check: peer closed the connection")
    | sendExpired sent total =>
      (.warning, "Send deadline exceeded (" ++ Number.integer sent ++ "/" ++ Number.integer total ++
        " bytes sent)")
    | sendFailed reason => (.warning, "Send failed: " ++ reason)
    | sendClosed => (.warning, "Send failed: peer closed the connection")
    | receiveFailed reason => (.warning, "Receive failed: " ++ reason)
    | receiveClosed => (.warning, "Receive failed: peer closed the connection")
    | lineOverflow limit =>
      (.warning, Number.worded [limit.value]
        ("Line exceeds " ++ limit.shown ++ " bytes, discarding to next terminator"))
    | listening host port =>
      (.debug, "Server socket created: " ++ host.inline ++ ":" ++ port.inline ++
        " (SO_REUSEADDR enabled)")
  ⟨level, .transport, text⟩

inductive WireEntry (τ : Type)
  | call (call : SocketCall τ)
  | notice (notice : TransportNotice)

structure Network (τ : Type) where
  clock : τ
  /-- Sockets to be created, in order; after them every socket is a plain one. -/
  coming : List (Socket τ) := []
  /-- Sockets created so far, failures of creation included. -/
  sockets : Array (Socket τ) := #[]
  journal : Array (WireEntry τ) := #[]

namespace Network

variable {τ : Type}

def record (n : Network τ) (call : SocketCall τ) : Network τ :=
  { n with journal := n.journal.push (.call call) }

def report (n : Network τ) (notice : TransportNotice) : Network τ :=
  { n with journal := n.journal.push (.notice notice) }

def socket (n : Network τ) (id : Nat) : Socket τ := (n.sockets[id]?).getD {}

def setSocket (n : Network τ) (id : Nat) (s : Socket τ) : Network τ :=
  { n with sockets := n.sockets.setIfInBounds id s }

def create (n : Network τ) : Except Fault Nat × Network τ :=
  let id := n.sockets.size
  let next := n.coming.headD {}
  let n := { n with coming := n.coming.tail, sockets := n.sockets.push next }
  match next.fault? .create with
  | some fault => (.error fault, n)
  | none => (.ok id, n.record (.create id))

/-- Makes a call on the way to an open socket.  It is entered before it fails, unless the platform does not
know what it asks for. -/
def attempt (n : Network τ) (id : Nat) (step : OpeningStep) (call : SocketCall τ) :
    Except Fault Unit × Network τ :=
  match (n.socket id).fault? step with
  | none => (.ok (), n.record call)
  | some (.unknownOption name) => (.error (.unknownOption name), n)
  | some fault => (.error fault, n.record call)

/-- Makes calls in order, up to the first that fails. -/
def attemptAll (n : Network τ) (id : Nat) :
    List (OpeningStep × SocketCall τ) → Except Fault Unit × Network τ
  | [] => (.ok (), n)
  | (step, call) :: rest =>
    match n.attempt id step call with
    | (.ok (), n) => n.attemptAll id rest
    | failed => failed

def close (n : Network τ) (id : Nat) : Except Fault Unit × Network τ :=
  let n := n.record (.close id)
  match (n.socket id).closeError with
  | some text => (.error (.system text), n)
  | none => (.ok (), n)

/-- Closes a socket that could not be opened. -/
def discard (n : Network τ) (id : Nat) : Except Fault Unit × Network τ :=
  let n := n.record (.close id)
  match (n.socket id).fault? .close with
  | some fault => (.error fault, n)
  | none => (.ok (), n)

/-- Adds to what arrives at a socket; a negative number counts back from the newest. -/
def feed (n : Network τ) (number : Int) (arrivals : List (Arrival τ)) : Except Fault (Network τ) :=
  let place := if number < 0 then number + n.sockets.size else number
  if 0 ≤ place ∧ place < n.sockets.size then
    let s := n.socket place.toNat
    .ok (n.setSocket place.toNat { s with arrivals := s.arrivals ++ arrivals })
  else .error .noSuchSocket

/-- Gives a socket that listens its timeout, if there is one, and reports its port. -/
def announce (n : Network τ) (id : Nat) (host : Value) (timeout : Option τ) :
    Except Fault Nat × Network τ :=
  match n.attemptAll id (timeout.toList.map fun time => (.setTimeout, .setTimeout id time)) with
  | (.error fault, n) => (.error fault, n)
  | (.ok (), n) =>
    match (n.socket id).fault? .readName with
    | some fault => (.error fault, n)
    | none => (.ok id, n.report (.listening host (n.socket id).boundPort))

/-- Opens a listening socket: the address may be taken again at once, and a socket that cannot be bound or
cannot listen is closed if that is a failure of the system.  After any other failure it stays open. -/
def listenOn (n : Network τ) (target : Target) (backlog : Value) (timeout : Option τ) :
    Except Fault Nat × Network τ :=
  match n.create with
  | (.error fault, n) => (.error fault, n)
  | (.ok id, n) =>
    match n.attempt id (.setOption .reuseAddress) (.setOption id .reuseAddress 1) with
    | (.error fault, n) => (.error fault, n)
    | (.ok (), n) =>
      match n.attemptAll id [(.bind, .bind id target), (.listen, .listen id backlog)] with
      | (.error fault, n) =>
        if fault.isSystem then
          match n.discard id with
          | (.error other, n) => (.error other, n)
          | (.ok (), n) => (.error fault, n)
        else (.error fault, n)
      | (.ok (), n) => n.announce id target.host timeout

end Network

end PeripheralLink

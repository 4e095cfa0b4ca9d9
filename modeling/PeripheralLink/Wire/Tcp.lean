import PeripheralLink.Wire.Network
/-!
The TCP transport: one connection at a time, a deadline on every exchange of bytes, and a partial
line carried from one call to the next.  Whatever breaks the connection closes the socket and clears
the partial line.
-/

namespace PeripheralLink

structure Tcp (τ : Type) where
  target : Target
  connectTimeout : τ
  ioTimeout : τ
  lineLimit : Whole
  socket : Option Nat := none
  connected : Bool := false
  buffer : LineBuffer := {}

/-- The options of a connection, without which it is not used: short lines leave at once, and a silent peer is
noticed. -/
def keepAliveOptions : List (SocketOption × Int) := [(.noDelay, 1), (.keepAlive, 1)]

/-- When a silent peer is noticed. -/
def keepAliveDetails : List (SocketOption × Int) :=
  [(.keepIdle, 5), (.keepInterval, 2), (.keepCount, 3)]

/-- Calls that set options. -/
def optionCalls {τ : Type} (id : Nat) (options : List (SocketOption × Int)) :
    List (OpeningStep × SocketCall τ) :=
  options.map fun (option, value) => (.setOption option, .setOption id option value)

/-- The platform lacks the details, or the system refuses them; the connection does without. -/
def Fault.isDispensable : Fault → Bool
  | system _ => true
  | unknownOption _ => true
  | _ => false

namespace Tcp

variable {τ : Type} [Zero τ] [Add τ] [Sub τ] [LE τ] [DecidableLE τ]

/-- Closes the socket, if any; a failure to close is only reported. -/
def release (t : Tcp τ) (n : Network τ) : Tcp τ × Network τ :=
  let idle := { t with socket := none, connected := false, buffer := {} }
  match t.socket with
  | none => (idle, n)
  | some id =>
    match n.close id with
    | (.ok (), n) => (idle, n)
    | (.error fault, n) => (idle, n.report (.closeFailed fault.text))

/-- Connects a new socket and sets it up for short lines. -/
def setUp (t : Tcp τ) (id : Nat) (n : Network τ) : Except Fault Unit × Network τ :=
  match n.attemptAll id ((.setTimeout, .setTimeout id t.connectTimeout) ::
      (.connect, .connect id t.target) :: optionCalls id keepAliveOptions) with
  | (.error fault, n) => (.error fault, n)
  | (.ok (), n) =>
    match n.attemptAll id (optionCalls id keepAliveDetails) with
    | (.ok (), n) => n.attempt id .setBlocking (.setBlocking id false)
    | (.error fault, n) =>
      if fault.isDispensable then
        (n.report .keepAliveUnsupported).attempt id .setBlocking (.setBlocking id false)
      else (.error fault, n)

/-- Opens the connection; true if it is open already.  A failure of the system closes the new socket
and is reported; any other failure leaves it open and is raised. -/
def connect (t : Tcp τ) (n : Network τ) : Except Fault Bool × Tcp τ × Network τ :=
  if t.connected then (.ok true, t, n)
  else
    let (t, n) := t.release n
    match n.create with
    | (.error (.system text), n) => (.ok false, t, n.report (.connectFailed t.target text))
    | (.error fault, n) => (.error fault, t, n)
    | (.ok id, n) =>
      match t.setUp id n with
      | (.ok (), n) =>
        (.ok true, { t with socket := some id, connected := true, buffer := {} },
          n.report (.connected t.target))
      | (.error (.system text), n) =>
        match (n.report (.connectFailed t.target text)).discard id with
        | (.ok (), n) => (.ok false, t, n)
        | (.error fault, n) => (.error fault, t, n)
      | (.error fault, n) => (.error fault, t, n)

def disconnect (t : Tcp τ) (n : Network τ) : Tcp τ × Network τ :=
  let (idle, n) := t.release n
  (idle, if t.connected then n.report (.disconnected t.target) else n)

def drop (t : Tcp τ) (n : Network τ) (reason : TransportNotice) : Tcp τ × Network τ :=
  t.release (n.report reason)

def open? (t : Tcp τ) : Option Nat := if t.connected then t.socket else none

/-- Looks at the next byte without taking it: the peer is alive if there is one, and if there is
none yet. -/
def probe (t : Tcp τ) (n : Network τ) : Bool × Tcp τ × Network τ :=
  match t.open? with
  | none => (false, t, n)
  | some id =>
    let (result, s) := (n.socket id).peek
    let n := n.setSocket id s
    match result with
    | .failed text => (false, t.drop n (.probeFailed text))
    | .ended => (false, t.drop n .probeClosed)
    | _ => (true, t, n)

/-- Sends all bytes before the deadline, or closes the connection. -/
def send (t : Tcp τ) (n : Network τ) (bytes : List UInt8) : Bool × Tcp τ × Network τ :=
  match t.open? with
  | none => (false, t, n)
  | some id =>
    let s := n.socket id
    let (result, s, clock, taken) :=
      s.writeAll (n.clock + t.ioTimeout) s.writeRounds n.clock 0 bytes []
    let n := { (n.setSocket id s) with clock }
    let n := taken.foldr (fun chunk n => n.record (.send id chunk)) n
    match result with
    | .done => (true, t, n)
    | .expired sent => (false, t.drop n (.sendExpired sent bytes.length))
    | .failed text => (false, t.drop n (.sendFailed text))
    | .closed => (false, t.drop n .sendClosed)

/-- Reads one line before the deadline.  What has arrived of a line stays for the next call. -/
def receive (t : Tcp τ) (n : Network τ) : Option (List UInt8) × Tcp τ × Network τ :=
  match t.open? with
  | none => (none, t, n)
  | some id =>
    let s := n.socket id
    let (result, s, clock, buffer) :=
      s.readLine t.lineLimit.value (n.clock + t.ioTimeout) s.readRounds n.clock t.buffer
    let n := { (n.setSocket id s) with clock }
    let t := { t with buffer }
    match result with
    | .line bytes => (some bytes, t, n)
    | .expired => (none, t, n)
    | .overflow => (none, t, n.report (.lineOverflow t.lineLimit))
    | .failed text => (none, t.drop n (.receiveFailed text))
    | .closed => (none, t.drop n .receiveClosed)

/-- Sends bytes and reads the line that answers them. -/
def exchange (t : Tcp τ) (n : Network τ) (bytes : List UInt8) :
    Option (List UInt8) × Tcp τ × Network τ :=
  match t.send n bytes with
  | (true, t, n) => t.receive n
  | (false, t, n) => (none, t, n)

end Tcp

end PeripheralLink
